import DrmSurface.Buffer.Id
import DrmSurface.Device.Errno
import DrmSurface.Engine.Basic
import DrmSurface.Geometry

/-!
# Driver errors

Why an operation of a driver fails.

There are three groups.

* `Slot`, the operations that a driver need not have.
* `KernelOp`, the kernel calls whose refusal ends an operation.
* `DriverError`, with its kinds, its wording and its causes.  The refusals of the
  kernel and of the engine are device failures; everything else is the
  caller's mistake.
-/

namespace DrmSurface

/-- The operations that a driver need not have, and the making of a driver. -/
inductive Slot where
  | createDriver
  | flush
  | importHandle
  | importName
  | importPrime
  | exportPrime
  | fillRect
  | checkBlit
  | blit
  | copy
  | rotate
  | flip
  deriving DecidableEq

/-- The name of a slot in the operations table. -/
def Slot.name : Slot → String
  | createDriver => "create_driver"
  | flush => "flush_driver"
  | importHandle => "create_buffer_from_handle"
  | importName => "create_buffer_from_name"
  | importPrime => "create_buffer_from_prime_fd"
  | exportPrime => "export_prime_fd"
  | fillRect => "fill_rect"
  | checkBlit => "check_blit"
  | blit => "blit"
  | copy => "copy_buff"
  | rotate => "rotate_buff"
  | flip => "flip_buff"

/-- The kernel calls whose refusal ends an operation. -/
inductive KernelOp where
  | rockchipCreate
  | rockchipMapOffset
  | openName
  | fdSize
  | fdToHandle
  | handleToFd
  | duplicate
  | map
  | unmap
  | allocDmabuf
  deriving DecidableEq

/-- The kernel's name of a call. -/
def KernelOp.name : KernelOp → String
  | rockchipCreate => "DRM_IOCTL_ROCKCHIP_GEM_CREATE"
  | rockchipMapOffset => "DRM_IOCTL_ROCKCHIP_GEM_MAP_OFFSET"
  | openName => "DRM_IOCTL_GEM_OPEN"
  | fdSize => "lseek"
  | fdToHandle => "DRM_IOCTL_PRIME_FD_TO_HANDLE"
  | handleToFd => "DRM_IOCTL_PRIME_HANDLE_TO_FD"
  | duplicate => "dup"
  | map => "mmap"
  | unmap => "munmap"
  | allocDmabuf => "DRM_VMW_ALLOC_DMABUF"

/-- Why an operation of a driver fails. -/
inductive DriverError where
  /-- The surface asked for cannot be laid out, or is not the one stated. -/
  | geometry (cause : GeometryError)
  /-- The object behind a name or a descriptor is smaller than the surface. -/
  | exceedsDescriptor (size fileSize : Nat)
  /-- The engine does not have a mode of the blit. -/
  | unsupportedMode (cause : ModeError)
  /-- The operation does not do this transform. -/
  | unsupportedTransform (slot : Slot)
  /-- The two buffers do not have the sizes that the operation needs. -/
  | dimensionMismatch
  /-- A rectangle leaves its buffer. -/
  | outOfBounds
  /-- The engine has no view of the buffer. -/
  | notAccelerated (id : BufferId)
  /-- The driver does not have the operation. -/
  | notSupported (slot : Slot)
  | noSuchBuffer (id : BufferId)
  | alreadyMapped (id : BufferId)
  | notMapped (id : BufferId)
  /-- The kernel refused a call. -/
  | kernel (op : KernelOp) (cause : Errno)
  /-- The engine refused a request. -/
  | engine (cause : EngineError)
  deriving DecidableEq

namespace DriverError

/-- The name of a kind of driver error. -/
def kind : DriverError → String
  | geometry cause => cause.kind
  | exceedsDescriptor .. => "SizeExceedsDescriptor"
  | unsupportedMode _ => "UnsupportedMode"
  | unsupportedTransform _ => "UnsupportedTransform"
  | dimensionMismatch => "DimensionMismatch"
  | outOfBounds => "RectOutOfBounds"
  | notAccelerated _ => "NotAccelerated"
  | notSupported _ => "NotSupported"
  | noSuchBuffer _ => "NoSuchBuffer"
  | alreadyMapped _ => "AlreadyMapped"
  | notMapped _ => "NotMapped"
  | kernel .. => "Kernel"
  | engine _ => "Accel"

/-- The wording of a driver error. -/
def message : DriverError → String
  | geometry cause => cause.message
  | exceedsDescriptor size fileSize => s!"size ({size}) exceeds descriptor size ({fileSize})"
  | unsupportedMode cause => cause.message
  | unsupportedTransform slot => s!"unsupported transform for {slot.name}"
  | dimensionMismatch => "source and destination dimensions do not match"
  | outOfBounds => "rectangle outside of buffer bounds"
  | notAccelerated id => s!"buffer {id.display} has no accelerator wrapping"
  | notSupported slot => s!"operation not supported by this driver: {slot.name}"
  | noSuchBuffer id => s!"no such buffer: {id.display}"
  | alreadyMapped id => s!"buffer {id.display} is already mapped"
  | notMapped id => s!"buffer {id.display} is not mapped"
  | kernel op cause => s!"{op.name} failed: {cause.message}"
  | engine cause => cause.text

/-- The wording of an error followed by that of its cause, outermost first. -/
def chain (e : DriverError) : List String :=
  match e with
  | kernel _ cause => [e.message, cause.message]
  | _ => [e.message]

/-- Whether the kernel or the engine refused a call. -/
def isDeviceFailure : DriverError → Bool
  | kernel .. | engine _ => true
  | _ => false

end DriverError

end DrmSurface
