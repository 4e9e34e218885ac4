import DrmSurface.Backend
import DrmSurface.Error
import DrmSurface.Log.Level

/-!
# Notices

What the library logs.  A notice says what happened; its severity and its
wording follow from that.

There are three groups.

* `DriverNotice`, from a driver about its buffers.
* `RegistryNotice`, from the choice of a driver.
* `Notice`, all of them and those of the probe program.  A notice is worded
  with a function that writes addresses, since they differ from run to run.
-/

namespace DrmSurface

/-! ## Drivers -/

/-- What a buffer is imported from. -/
inductive ImportSource where
  | handle (handle : UInt32)
  | name (name : UInt32)
  | prime
  deriving DecidableEq

/-- The wording of an import source. -/
def ImportSource.text : ImportSource → String
  | handle h => s!"handle {h}"
  | name n => s!"name {n}"
  | prime => "prime fd"

/-- What a driver reports about its buffers. -/
inductive DriverNotice where
  | creating
  | engineInfo (info : String)
  | cannotCreate (cause : GeometryError)
  | badSurface (source : ImportSource) (cause : GeometryError) (desc : SurfaceDesc)
      (pitch : UInt32)
  | allocFailed (size : UInt32) (cause : Errno)
  | createFailed (cause : Errno)
  | openFailed (name : UInt32) (cause : Errno)
  | objectTooSmall (name : UInt32) (held needed : Nat)
  | fdSizeFailed (cause : Errno)
  | fdSize (size : Nat)
  | sizeExceedsFile (size fileSize : Nat)
  | fdToHandleFailed (cause : Errno)
  | handleToFdFailed (cause : Errno)
  | importFailed (cause : EngineError)
  | allocated (id : BufferId) (desc : SurfaceDesc) (geometry : Geometry) (mapHandle : Nat)
  | created (id : BufferId) (handle : UInt32) (desc : SurfaceDesc) (geometry : Geometry)
  | misaligned (id : BufferId) (mapHandle : Nat)
  | mapOffsetFailed (cause : Errno)
  | mapFailed (cause : Errno)
  | mapFailedAt (cause : Errno) (size mapHandle : Nat)
  | mapped (id : BufferId) (address : Address)
  | unmapFailed (cause : Errno)
  | unmapOfFailed (id : BufferId) (cause : Errno)
  | engineFailed (cause : EngineError)
  | closeFailed (cause : Errno)
  | freeFailed (handle : UInt32) (cause : Errno)
  | destroyed (handle : UInt32)
  | leftover (count : Nat)
  deriving DecidableEq

namespace DriverNotice

/-- How serious a report is: a refused operation is an error, a loss that
the driver survives a warning, and progress is for debugging. -/
def severity : DriverNotice → Severity
  | creating | engineInfo _ | fdSize _ | allocated .. | created .. | mapped .. | destroyed _ =>
    .debug
  | cannotCreate _ | badSurface .. | allocFailed .. | createFailed _ | openFailed ..
  | objectTooSmall .. | fdSizeFailed _ | sizeExceedsFile .. | fdToHandleFailed _
  | misaligned .. | mapOffsetFailed _ | mapFailed _ | mapFailedAt .. => .error
  | handleToFdFailed _ | importFailed _ | unmapFailed _ | unmapOfFailed .. | engineFailed _
  | closeFailed _ | freeFailed .. | leftover _ => .warn

/-- The extent of a fresh buffer as text. -/
private def extent (desc : SurfaceDesc) (g : Geometry) : String :=
  s!"width ({desc.width}), height ({desc.height}), pitch ({g.pitch}), size ({g.size})"

/-- The wording of a report. -/
def text (pointer : Address → String) : DriverNotice → String
  | creating => "creating driver"
  | engineInfo info => s!"RGA information:\n{info}"
  | cannotCreate cause => s!"cannot create buffer: {cause.message}"
  | badSurface source cause desc pitch =>
    s!"bad surface parameters for {source.text}: {cause.message} " ++
      s!"(header size: {desc.headerSize}, {desc.width} x {desc.height}, pitch: {pitch})"
  | allocFailed size cause => s!"failed to allocate DMA buffer ({size} bytes): {cause.message}"
  | createFailed cause => s!"failed to create gem object: {cause.message}"
  | openFailed name cause => s!"failed to open gem object by name {name}: {cause.message}"
  | objectTooSmall name held needed => s!"gem object {name} holds {held} bytes, {needed} needed"
  | fdSizeFailed cause => s!"failed to get size of buffer from fd: {cause.message}"
  | fdSize size => s!"size of prime fd: {size}"
  | sizeExceedsFile size fileSize => s!"size ({size}) exceeds file size ({fileSize})"
  | fdToHandleFailed cause => s!"failed to get handle of prime fd: {cause.message}"
  | handleToFdFailed cause => s!"failed to get prime fd of buffer: {cause.message}"
  | importFailed cause => s!"failed to import buffer: {cause.text}"
  | allocated id desc g mapHandle =>
    s!"allocated buffer {id.display}: {extent desc g}, map handle (0x{Text.hex mapHandle})"
  | created id handle desc g =>
    s!"buffer {id.display} (handle {handle}): {extent desc g}, offset ({g.offset})"
  | misaligned id mapHandle =>
    s!"map handle 0x{Text.hex mapHandle} of buffer {id.display} is not page aligned"
  | mapOffsetFailed cause => s!"failed to get gem map offset: {cause.message}"
  | mapFailed cause => s!"failed to mmap buffer: {cause.message}"
  | mapFailedAt cause size mapHandle =>
    s!"failed mmap(): {cause.message} (size: {size}, handle: 0x{Text.hex mapHandle})"
  | mapped id address => s!"mapped buffer {id.display} at {pointer address}"
  | unmapFailed cause => s!"failed munmap: {cause.message}"
  | unmapOfFailed id cause => s!"failed munmap of buffer {id.display}: {cause.message}"
  | engineFailed cause => cause.text
  | closeFailed cause => s!"failed DRM_IOCTL_GEM_CLOSE: {cause.message}"
  | freeFailed handle cause => s!"failed to free buffer object ({handle}): {cause.message}"
  | destroyed handle => s!"buffer object ({handle}) destroyed"
  | leftover count => s!"there are still {count} buffers left"

end DriverNotice

/-! ## The choice of a driver -/

/-- What the registry reports. -/
inductive RegistryNotice where
  | requested (name : String)
  | notEnabled (name : String)
  | unknown (name : String)
  | factoryFailed (name : String) (cause : DriverError)
  deriving DecidableEq

namespace RegistryNotice

/-- Only the request itself is no error. -/
def severity : RegistryNotice → Severity
  | requested _ => .debug
  | notEnabled _ | unknown _ | factoryFailed .. => .error

/-- The wording of a report. -/
def text : RegistryNotice → String
  | requested name => s!"driver requested: {name}"
  | notEnabled name => s!"driver {name} is not enabled in this build"
  | unknown name => s!"unknown driver: {name}"
  | factoryFailed name cause => s!"failed to create driver {name}: {cause.message}"

end RegistryNotice

/-! ## All notices -/

/-- What the library logs. -/
inductive Notice where
  | driver (backend : Backend) (notice : DriverNotice)
  | registry (notice : RegistryNotice)
  /-- The probe has chosen a driver. -/
  | usingDriver (name device : String)
  /-- The probe was asked for a fill that the driver does not have. -/
  | cannotFill (name : String)
  deriving DecidableEq

namespace Notice

/-- How serious a notice is. -/
def severity : Notice → Severity
  | driver _ notice => notice.severity
  | registry notice => notice.severity
  | usingDriver .. => .info
  | cannotFill _ => .warn

/-- The wording of a notice. -/
def text (pointer : Address → String) : Notice → String
  | driver backend notice => s!"DRM>{backend.name}: {notice.text pointer}"
  | registry notice => s!"DRM: {notice.text}"
  | usingDriver name device => s!"Using driver {name} on {device}"
  | cannotFill name => s!"Driver {name} cannot fill rectangles"

end Notice

end DrmSurface
