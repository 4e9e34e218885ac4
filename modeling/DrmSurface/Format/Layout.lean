import DrmSurface.Format.Fourcc

/-!
# Pixel layouts

Which formats a backend accepts, and how many bytes a pixel of each takes.

The two families of backends disagree.  The generic table has no 24-bit
formats, since a buffer without a 2D engine is padded to whole words.  The
table of the Rockchip engine has exactly the formats that the engine has a
native code for, 24-bit ones included.
-/

namespace DrmSurface

/-- The layout of one pixel. -/
structure PixelLayout where
  /-- Bits per pixel. -/
  bpp : UInt32
  /-- Bytes per pixel. -/
  cpp : UInt32
  /-- The code of the format inside the 2D engine. -/
  native : Option Int
  deriving DecidableEq

/-- Which formats a family of backends accepts. -/
inductive FormatTable where
  /-- Buffers without a 2D engine. -/
  | generic
  /-- Buffers shared with the Rockchip engine. -/
  | rockchip
  deriving DecidableEq

namespace FormatTable

open Fourcc

/-- The formats of the generic table with one byte to a pixel. -/
def oneByte : List Fourcc := [rgb332, bgr233]

/-- The formats of the generic table with two bytes to a pixel. -/
def twoBytes : List Fourcc :=
  [xrgb4444, xbgr4444, rgbx4444, bgrx4444, argb4444, abgr4444, rgba4444, bgra4444,
   xrgb1555, xbgr1555, rgbx5551, bgrx5551, argb1555, abgr1555, rgba5551, bgra5551,
   rgb565, bgr565]

/-- The formats of the generic table with four bytes to a pixel. -/
def fourBytes : List Fourcc :=
  [xrgb8888, xbgr8888, rgbx8888, bgrx8888, argb8888, abgr8888, rgba8888, bgra8888]

/-- The layout of a format in the generic table. -/
def resolveGeneric (f : Fourcc) : Option PixelLayout :=
  if f ∈ oneByte then some ⟨8, 1, none⟩
  else if f ∈ twoBytes then some ⟨16, 2, none⟩
  else if f ∈ fourBytes then some ⟨32, 4, none⟩
  else none

/-- The formats of the engine: bytes per pixel and native code. -/
def engineFormats : List (Fourcc × UInt32 × Int) :=
  [(argb4444, 2, 0x2b00), (abgr4444, 2, 0x2f00), (rgba4444, 2, 0x0600), (bgra4444, 2, 0x2600),
   (rgba5551, 2, 0x0500), (bgra5551, 2, 0x2500),
   (rgb565, 2, 0x0400), (bgr565, 2, 0x2400),
   (rgb888, 3, 0x0200), (bgr888, 3, 0x0700),
   (xrgb8888, 4, 0x2900), (xbgr8888, 4, 0x2d00), (rgbx8888, 4, 0x0100), (bgrx8888, 4, 0x1600),
   (argb8888, 4, 0x2800), (abgr8888, 4, 0x2c00), (rgba8888, 4, 0x0000), (bgra8888, 4, 0x0300)]

/-- The layout of a format in the table of the engine. -/
def resolveRockchip (f : Fourcc) : Option PixelLayout :=
  (engineFormats.find? fun entry => entry.1 = f).map fun (_, cpp, code) =>
    ⟨8 * cpp, cpp, some code⟩

/-- The layout of a format, if the table has the format. -/
def resolve : FormatTable → Fourcc → Option PixelLayout
  | generic => resolveGeneric
  | rockchip => resolveRockchip

end FormatTable

end DrmSurface
