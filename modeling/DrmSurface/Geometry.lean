import DrmSurface.Format.Layout

/-!
# Surface geometry

How many bytes a surface of a given size takes, and where its pixels lie.

A surface is a run of rows of equal length, the pitch.  The rows in front
are reserved for a header of the application, and the pixels follow them:

```text
0                offset                             size
| header rows    | height rows of pixels            |
```

There are three groups.

* The request.  `SurfaceDesc` is what a caller asks for, and `Placement`
  where the kernel shall put it.
* Rounding.  `pitchFor` rounds a row up to whole words, `headerRows` rounds
  a header up to whole rows.
* `Geometry`.  `Geometry.compute` derives it from a request, and
  `Geometry.validate` also checks the pitch and the size that the owner of
  an existing buffer states.
-/

namespace DrmSurface

/-! ## The request -/

/-- Where the kernel should place a fresh buffer. -/
inductive Placement where
  /-- Where the display controller can show it. -/
  | scanout
  /-- A shadow of a shown buffer, composed by the processor. -/
  | shadow
  /-- Anywhere. -/
  | general
  deriving DecidableEq

namespace Placement

/-- The name of a placement. -/
def name : Placement → String
  | scanout => "Scanout"
  | shadow => "Shadow"
  | general => "General"

/-- Every placement. -/
def all : List Placement := [scanout, shadow, general]

/-- Whether the placement is for direct display. -/
def isScanout (p : Placement) : Bool := p = scanout

end Placement

/-- The surface that a caller asks for. -/
structure SurfaceDesc where
  format : Fourcc
  /-- Bytes reserved in front of the pixels. -/
  headerSize : UInt32
  width : UInt32
  /-- Rows of pixels, the header not counted. -/
  height : UInt32
  deriving DecidableEq

/-! ## Rounding -/

/-- The bytes of a row of `width` pixels, rounded up to a multiple of four.
There is no pitch if the rounding leaves 32 bits. -/
def pitchFor (width cpp : UInt32) : Option UInt32 :=
  let padded := width.toNat * cpp.toNat + 3
  if padded < UInt32.size then some (UInt32.ofNat (padded / 4 * 4)) else none

/-- The number of whole rows that hold a header.  Rows without bytes hold
nothing, so there are none for a pitch of zero. -/
def headerRows (headerSize pitch : UInt32) : UInt32 :=
  if headerSize = 0 ∨ pitch = 0 then 0
  else UInt32.ofNat ((headerSize.toNat + pitch.toNat - 1) / pitch.toNat)

/-! ## Geometry -/

/-- Why a surface cannot be laid out, or does not have the layout that its
owner states. -/
inductive GeometryError where
  /-- The backend does not have the format. -/
  | unsupportedFormat (format : Fourcc)
  /-- The surface has no bytes. -/
  | zeroSize (width height : UInt32)
  /-- The surface does not fit the machine's words. -/
  | overflow (width height headerSize : UInt32)
  /-- The stated pitch is not the pitch of the surface. -/
  | badPitch (pitch expected : UInt32)
  /-- The stated size is not the size of the surface. -/
  | badSize (size expected : Nat)
  deriving DecidableEq

namespace GeometryError

/-- The name of a kind of geometry error. -/
def kind : GeometryError → String
  | unsupportedFormat _ => "UnsupportedFormat"
  | zeroSize .. => "ZeroSize"
  | overflow .. => "GeometryOverflow"
  | badPitch .. => "BadPitch"
  | badSize .. => "BadSize"

/-- The wording of a geometry error. -/
def message : GeometryError → String
  | unsupportedFormat format => s!"not supported format: {format.display}"
  | zeroSize width height => s!"zero size requested ({width} x {height})"
  | overflow width height headerSize =>
    s!"buffer geometry overflows ({width} x {height}, header {headerSize})"
  | badPitch pitch expected => s!"bad pitch value: {pitch} (expected {expected})"
  | badSize size expected => s!"bad size: {size} (expected {expected})"

end GeometryError

/-- The layout of a surface in bytes. -/
structure Geometry where
  layout : PixelLayout
  /-- Bytes from one row to the next. -/
  pitch : UInt32
  headerRows : UInt32
  /-- All bytes, those of the header rows included. -/
  size : Nat
  /-- The first byte of the first row of pixels. -/
  offset : Nat
  deriving DecidableEq

namespace Geometry

/-- The geometry of a surface under the formats of a table.  The format is
looked at first, then the arithmetic, then the size. -/
def compute (table : FormatTable) (desc : SurfaceDesc) : Except GeometryError Geometry :=
  match table.resolve desc.format with
  | none => .error (.unsupportedFormat desc.format)
  | some layout =>
    match pitchFor desc.width layout.cpp with
    | none => .error (.overflow desc.width desc.height desc.headerSize)
    | some pitch =>
      let rows := DrmSurface.headerRows desc.headerSize pitch
      let size := (desc.height.toNat + rows.toNat) * pitch.toNat
      if UInt64.size ≤ size then .error (.overflow desc.width desc.height desc.headerSize)
      else if size = 0 then .error (.zeroSize desc.width desc.height)
      else .ok { layout, pitch, headerRows := rows, size, offset := rows.toNat * pitch.toNat }

/-- The geometry of an existing buffer.  Its owner states the pitch and
perhaps the size, and both must be those of the surface asked for. -/
def validate (table : FormatTable) (desc : SurfaceDesc) (pitch : UInt32) (size? : Option Nat) :
    Except GeometryError Geometry :=
  match compute table desc with
  | .error e => .error e
  | .ok g =>
    if pitch ≠ g.pitch then .error (.badPitch pitch g.pitch)
    else match size? with
    | none => .ok g
    | some size => if size ≠ g.size then .error (.badSize size g.size) else .ok g

end Geometry

end DrmSurface
