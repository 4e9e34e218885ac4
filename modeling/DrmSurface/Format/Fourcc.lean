import DrmSurface.Text.Numeral

/-!
# Fourcc codes

A pixel format is named by a 32-bit code whose four bytes, least
significant first, are usually four letters and digits: its tag.

There are three groups.

* Tags.  `Fourcc.ofTag?` and `Fourcc.tag` go between a code and its four
  bytes.
* Known formats.  `Fourcc.known` lists the packed RGB formats under their
  DRM names, and `Fourcc.ofName?` and `Fourcc.name?` look a format up
  either way.
* Display.  A code is shown by its tag if that can be printed, and in
  hexadecimal otherwise.
-/

namespace DrmSurface

open Text

/-- A pixel format code. -/
structure Fourcc where
  code : UInt32
  deriving DecidableEq

namespace Fourcc

/-! ## Tags -/

/-- The code with the given bytes, the least significant one first. -/
def ofBytes (a b c d : UInt8) : Fourcc :=
  ⟨a.toUInt32 ||| b.toUInt32 <<< 8 ||| c.toUInt32 <<< 16 ||| d.toUInt32 <<< 24⟩

/-- The code whose tag is `s`.  There is none unless `s` takes exactly four
bytes in UTF-8. -/
def ofTag? (s : String) : Option Fourcc :=
  match s.toUTF8.data.toList with
  | [a, b, c, d] => some (ofBytes a b c d)
  | _ => none

/-- The four bytes of a code, the least significant one first. -/
def tag (f : Fourcc) : List UInt8 :=
  [f.code.toUInt8, (f.code >>> 8).toUInt8, (f.code >>> 16).toUInt8, (f.code >>> 24).toUInt8]

/-! ## Known formats -/

/-- The code with four ASCII characters as its tag. -/
private def ofChars (a b c d : Char) : Fourcc :=
  ofBytes a.toUInt8 b.toUInt8 c.toUInt8 d.toUInt8

def rgb332 : Fourcc := ofChars 'R' 'G' 'B' '8'
def bgr233 : Fourcc := ofChars 'B' 'G' 'R' '8'

def xrgb4444 : Fourcc := ofChars 'X' 'R' '1' '2'
def xbgr4444 : Fourcc := ofChars 'X' 'B' '1' '2'
def rgbx4444 : Fourcc := ofChars 'R' 'X' '1' '2'
def bgrx4444 : Fourcc := ofChars 'B' 'X' '1' '2'
def argb4444 : Fourcc := ofChars 'A' 'R' '1' '2'
def abgr4444 : Fourcc := ofChars 'A' 'B' '1' '2'
def rgba4444 : Fourcc := ofChars 'R' 'A' '1' '2'
def bgra4444 : Fourcc := ofChars 'B' 'A' '1' '2'

def xrgb1555 : Fourcc := ofChars 'X' 'R' '1' '5'
def xbgr1555 : Fourcc := ofChars 'X' 'B' '1' '5'
def rgbx5551 : Fourcc := ofChars 'R' 'X' '1' '5'
def bgrx5551 : Fourcc := ofChars 'B' 'X' '1' '5'
def argb1555 : Fourcc := ofChars 'A' 'R' '1' '5'
def abgr1555 : Fourcc := ofChars 'A' 'B' '1' '5'
def rgba5551 : Fourcc := ofChars 'R' 'A' '1' '5'
def bgra5551 : Fourcc := ofChars 'B' 'A' '1' '5'

def rgb565 : Fourcc := ofChars 'R' 'G' '1' '6'
def bgr565 : Fourcc := ofChars 'B' 'G' '1' '6'

def rgb888 : Fourcc := ofChars 'R' 'G' '2' '4'
def bgr888 : Fourcc := ofChars 'B' 'G' '2' '4'

def xrgb8888 : Fourcc := ofChars 'X' 'R' '2' '4'
def xbgr8888 : Fourcc := ofChars 'X' 'B' '2' '4'
def rgbx8888 : Fourcc := ofChars 'R' 'X' '2' '4'
def bgrx8888 : Fourcc := ofChars 'B' 'X' '2' '4'
def argb8888 : Fourcc := ofChars 'A' 'R' '2' '4'
def abgr8888 : Fourcc := ofChars 'A' 'B' '2' '4'
def rgba8888 : Fourcc := ofChars 'R' 'A' '2' '4'
def bgra8888 : Fourcc := ofChars 'B' 'A' '2' '4'

/-- The packed RGB formats under their DRM names. -/
def known : List (String × Fourcc) :=
  [("RGB332", rgb332), ("BGR233", bgr233),
   ("XRGB4444", xrgb4444), ("XBGR4444", xbgr4444),
   ("RGBX4444", rgbx4444), ("BGRX4444", bgrx4444),
   ("ARGB4444", argb4444), ("ABGR4444", abgr4444),
   ("RGBA4444", rgba4444), ("BGRA4444", bgra4444),
   ("XRGB1555", xrgb1555), ("XBGR1555", xbgr1555),
   ("RGBX5551", rgbx5551), ("BGRX5551", bgrx5551),
   ("ARGB1555", argb1555), ("ABGR1555", abgr1555),
   ("RGBA5551", rgba5551), ("BGRA5551", bgra5551),
   ("RGB565", rgb565), ("BGR565", bgr565),
   ("RGB888", rgb888), ("BGR888", bgr888),
   ("XRGB8888", xrgb8888), ("XBGR8888", xbgr8888),
   ("RGBX8888", rgbx8888), ("BGRX8888", bgrx8888),
   ("ARGB8888", argb8888), ("ABGR8888", abgr8888),
   ("RGBA8888", rgba8888), ("BGRA8888", bgra8888)]

/-- Whether two texts agree up to the case of ASCII letters. -/
def sameName (s t : String) : Bool :=
  s.toList.map Char.toLower == t.toList.map Char.toLower

/-- The known format of a DRM name, the case of ASCII letters aside. -/
def ofName? (name : String) : Option Fourcc :=
  (known.find? fun entry => sameName entry.1 name).map (·.2)

/-- The DRM name of a known format. -/
def name? (f : Fourcc) : Option String :=
  (known.find? fun entry => entry.2 = f).map (·.1)

/-! ## Display -/

/-- A byte that a tag may be printed with: a visible ASCII character or a
space. -/
def isPrintable (b : UInt8) : Bool := 0x20 ≤ b && b ≤ 0x7e

/-- A code as text: its tag if every byte of it can be printed, and
otherwise eight hexadecimal digits after `0x`. -/
def display (f : Fourcc) : String :=
  if f.tag.all isPrintable then String.ofList (f.tag.map fun b => Char.ofNat b.toNat)
  else "0x" ++ paddedHex f.code.toNat

/-- A code as text with the name of its type around it. -/
def debugText (f : Fourcc) : String := "Fourcc(" ++ f.display ++ ")"

end Fourcc

end DrmSurface
