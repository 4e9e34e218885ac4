import DrmSurface.Driver.Attempt

/-!
# Operations

The operations table of a driver, as data.  Every operation names its
arguments, and the type of its result depends on the operation.

A prepared blit is the result of checking one blit.  It holds everything
that the engine will be told, apart from the views of the two buffers, so
running it later needs no further check of modes or rectangles.
-/

namespace DrmSurface

/-- A blit that has been checked. -/
structure PreparedBlit where
  src : BufferId
  dst : BufferId
  srcRect : EngineRect
  dstRect : EngineRect
  usage : Usage
  options : EngineOptions
  alpha : Option UInt8
  deriving DecidableEq

/-- An operation of a driver with its arguments. -/
inductive Operation where
  /-- Pass pending work on to the device. -/
  | flush
  /-- Allocate a buffer. -/
  | create (desc : SurfaceDesc) (placement : Placement)
  /-- Take over a local handle.  The pitch and, if stated, the size must be
  those of the surface. -/
  | importHandle (handle : UInt32) (size? : Option Nat) (desc : SurfaceDesc) (pitch : UInt32)
  /-- Open a buffer by its global name. -/
  | importName (name : UInt32) (desc : SurfaceDesc) (pitch : UInt32)
  /-- Take over a prime descriptor.  Without a stated size the whole object
  must be the surface. -/
  | importPrime (fd : Descriptor) (size? : Option Nat) (desc : SurfaceDesc) (pitch : UInt32)
  /-- Map a whole buffer. -/
  | map (id : BufferId)
  | unmap (id : BufferId)
  /-- Release everything that a buffer holds. -/
  | destroy (id : BufferId)
  /-- A new descriptor of a buffer. -/
  | exportPrime (id : BufferId)
  /-- Fill a rectangle of pixels with one colour. -/
  | fillRect (id : BufferId) (rect : Rect) (color : UInt32)
  /-- Check a blit without running it. -/
  | checkBlit (src : BufferId) (srcRect : Rect) (dst : BufferId) (dstRect : Rect)
      (ops : BlitOps)
  /-- Run a blit that has been checked. -/
  | blit (prepared : PreparedBlit)
  /-- Copy all pixels. -/
  | copy (src dst : BufferId)
  /-- Turn all pixels. -/
  | rotate (src dst : BufferId) (op : CopyOp)
  /-- Mirror all pixels. -/
  | flip (src dst : BufferId) (op : CopyOp)
  deriving DecidableEq

namespace Operation

/-- What an operation returns. -/
abbrev Result : Operation → Type
  | create .. | importHandle .. | importName .. | importPrime .. => BufferId
  | map _ => Address
  | exportPrime _ => Descriptor
  | checkBlit .. => PreparedBlit
  | flush | unmap _ | destroy _ | fillRect .. | blit _ | copy .. | rotate .. | flip .. => Unit

/-- The slot of an operation that a driver need not have. -/
def slot? : Operation → Option Slot
  | flush => some .flush
  | importHandle .. => some .importHandle
  | importName .. => some .importName
  | importPrime .. => some .importPrime
  | exportPrime _ => some .exportPrime
  | fillRect .. => some .fillRect
  | checkBlit .. => some .checkBlit
  | blit _ => some .blit
  | copy .. => some .copy
  | rotate .. => some .rotate
  | flip .. => some .flip
  | create .. | map _ | unmap _ | destroy _ => none

end Operation

end DrmSurface
