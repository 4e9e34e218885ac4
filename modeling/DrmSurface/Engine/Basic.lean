import DrmSurface.Device.Resource
import DrmSurface.Engine.Usage

/-!
# The 2D engine

What a 2D composition engine is asked for.  A buffer's prime descriptor is
imported into the engine, which answers with a handle.  The handle and the
shape of the buffer form a view, and requests operate on views.

There are two groups.

* Views and rectangles.  The engine counts the header rows of a buffer, so
  `Rect.toEngine?` moves a rectangle down by them.
* Requests, with the type of the answer to each.
-/

namespace DrmSurface

/-! ## Views and rectangles -/

/-- The engine's handle of an imported buffer. -/
structure EngineHandle where
  value : UInt32
  deriving DecidableEq

/-- A buffer as the engine sees it. -/
structure EngineView where
  handle : EngineHandle
  width : UInt32
  /-- All rows, header rows included. -/
  height : UInt32
  /-- The engine's code of the format. -/
  format : Int
  pitch : UInt32
  cpp : UInt32
  /-- The alpha of the whole buffer when it is the source of a blit. -/
  alpha : Option UInt8
  deriving DecidableEq

/-- A rectangle in the coordinates of the engine. -/
structure EngineRect where
  x : Int
  y : Int
  width : Int
  height : Int
  deriving DecidableEq

namespace EngineRect

/-- The rectangle of a request that has no source. -/
def zero : EngineRect := ⟨0, 0, 0, 0⟩

/-- Equal width and equal height. -/
def SameSize (r s : EngineRect) : Prop := r.width = s.width ∧ r.height = s.height

instance (r s : EngineRect) : Decidable (r.SameSize s) := inferInstanceAs (Decidable (_ ∧ _))

/-- The width of one is the height of the other. -/
def TransposedSize (r s : EngineRect) : Prop := r.width = s.height ∧ r.height = s.width

instance (r s : EngineRect) : Decidable (r.TransposedSize s) :=
  inferInstanceAs (Decidable (_ ∧ _))

end EngineRect

/-- The greatest coordinate of the engine, which counts in signed words of
32 bits. -/
def maxCoordinate : Nat := 0x7fffffff

/-- A rectangle of pixels in the coordinates of the engine, moved down by
the header rows.  There is none if a coordinate leaves the engine's range. -/
def Rect.toEngine? (r : Rect) (headerRows : UInt32) : Option EngineRect :=
  if headerRows.toNat ≤ maxCoordinate ∧ r.y + headerRows.toNat ≤ maxCoordinate ∧
      r.w ≤ maxCoordinate ∧ r.h ≤ maxCoordinate then
    some ⟨r.x, r.y + headerRows.toNat, r.w, r.h⟩
  else none

/-! ## Requests -/

/-- A request that the engine refused. -/
structure EngineError where
  /-- The engine's name of the request. -/
  op : String
  status : Int
  message : String
  deriving DecidableEq

/-- The wording of an engine error. -/
def EngineError.text (e : EngineError) : String :=
  s!"{e.op} failed: {e.message} (status {e.status})"

/-- What the engine can be asked for. -/
inductive EngineRequest where
  /-- A description of the engine. -/
  | describe
  /-- Take in the pixels behind a descriptor. -/
  | importBuffer (fd : Descriptor) (width height : UInt32) (format : Int)
  /-- Give an imported buffer back. -/
  | release (handle : EngineHandle)
  /-- Judge a request without running it; a fill has no source. -/
  | check (src : Option EngineView) (dst : EngineView) (srcRect dstRect : EngineRect)
      (usage : Usage)
  /-- Fill a rectangle with one colour. -/
  | fill (dst : EngineView) (rect : EngineRect) (color : UInt32)
  /-- Copy one rectangle into another. -/
  | process (src dst : EngineView) (srcRect dstRect : EngineRect)
      (options : EngineOptions) (usage : Usage)
  deriving DecidableEq

/-- The answer to a request. -/
abbrev EngineRequest.Answer : EngineRequest → Type
  | .describe => Option String
  | .importBuffer .. => Except EngineError EngineHandle
  | _ => Except EngineError Unit

end DrmSurface
