import DrmSurface.Buffer.Id
import DrmSurface.Device.Resource
import DrmSurface.Geometry

/-!
# Surfaces

A buffer of a driver: the names under which the kernel knows it, the
geometry of its pixels, and its mapping while it has one.

The mapped bytes are reached as runs of bytes.  `bytes?` is the whole
mapping, and `header?` and `pixels?` are the two parts on either side of
the offset of the pixels.
-/

namespace DrmSurface

/-- A buffer of a driver. -/
structure Surface where
  id : BufferId
  /-- The kernel's local name of the buffer. -/
  handle : UInt32
  /-- The global name that the buffer was opened by. -/
  name : Option UInt32
  /-- The descriptor by which the buffer is shared. -/
  prime : Option Descriptor
  format : Fourcc
  width : UInt32
  /-- Rows of pixels, the header rows not counted. -/
  height : UInt32
  geometry : Geometry
  /-- Whether the buffer was placed for direct display. -/
  scanout : Bool
  mapping : Option Mapping
  deriving DecidableEq

namespace Surface

/-- A buffer that nobody shares or has mapped. -/
def ofDesc (id : BufferId) (handle : UInt32) (desc : SurfaceDesc) (geometry : Geometry)
    (scanout : Bool) : Surface :=
  { id, handle, name := none, prime := none, format := desc.format, width := desc.width,
    height := desc.height, geometry, scanout, mapping := none }

/-- How many rows the buffer has, the header rows included. -/
def rows (s : Surface) : Nat := s.height.toNat + s.geometry.headerRows.toNat

/-- Whether the processor can reach the bytes of the buffer. -/
def isMapped (s : Surface) : Bool := s.mapping.isSome

/-- The mapped bytes, header rows included. -/
def bytes? (s : Surface) : Option Span := s.mapping.map (·.span)

/-- The mapped bytes of the header rows. -/
def header? (s : Surface) : Option Span := s.bytes?.map (·.take s.geometry.offset)

/-- The mapped bytes of the pixels. -/
def pixels? (s : Surface) : Option Span := s.bytes?.map (·.drop s.geometry.offset)

end Surface

end DrmSurface
