import DrmSurface.Device.Errno
import DrmSurface.Device.Resource

/-!
# Device requests

The requests that a DRM device node answers, and their codes.

There are three groups.

* Codes.  A request code packs the direction of its argument, the size of
  the argument, the letter of the DRM family and a number.
* Flags that requests carry.
* `Request`, with the type of the reply to each request.
-/

namespace DrmSurface

/-! ## Codes -/

namespace RequestCode

/-- The first number that belongs to the drivers of the family. -/
def commandBase : Nat := 0x40

/-- A code of the DRM family: the letter `d`, a number, the direction bits
and the size of the argument in bytes. -/
def encode (direction number size : Nat) : Nat :=
  direction <<< 30 ||| size <<< 16 ||| 0x64 <<< 8 ||| number

/-- A request whose argument only goes to the kernel. -/
def write (number size : Nat) : Nat := encode 1 number size

/-- A request whose argument also comes back. -/
def readWrite (number size : Nat) : Nat := encode 3 number size

def version : Nat := readWrite 0x00 64
def gemClose : Nat := write 0x09 8
def gemOpen : Nat := readWrite 0x0b 16
def primeHandleToFd : Nat := readWrite 0x2d 12
def primeFdToHandle : Nat := readWrite 0x2e 12
def rockchipGemCreate : Nat := readWrite commandBase 16
def rockchipGemMapOffset : Nat := readWrite (commandBase + 1) 16
def vmwAllocDmabuf : Nat := readWrite (commandBase + 1) 24
def vmwUnrefDmabuf : Nat := write (commandBase + 2) 8

/-- The codes under the kernel's names. -/
def known : List (String × Nat) :=
  [("VERSION", version), ("GEM_CLOSE", gemClose), ("GEM_OPEN", gemOpen),
   ("PRIME_HANDLE_TO_FD", primeHandleToFd), ("PRIME_FD_TO_HANDLE", primeFdToHandle),
   ("ROCKCHIP_GEM_CREATE", rockchipGemCreate),
   ("ROCKCHIP_GEM_MAP_OFFSET", rockchipGemMapOffset),
   ("VMW_ALLOC_DMABUF", vmwAllocDmabuf), ("VMW_UNREF_DMABUF", vmwUnrefDmabuf)]

end RequestCode

/-! ## Flags -/

/-- The kernel shall place an object in contiguous memory. -/
def contiguousFlag : UInt32 := 1

/-- The processor may cache an object. -/
def cachableFlag : UInt32 := 2

/-- A descriptor that is exported for reading and writing and closed when
another program is run. -/
def primeExportFlags : UInt32 := 0x80002

/-! ## Requests -/

/-- What a DRM device node is asked for. -/
inductive Request where
  /-- The length of the driver's name. -/
  | versionLength
  /-- The driver's name, into a zeroed buffer of `capacity` bytes. -/
  | versionName (capacity : Nat)
  | gemClose (handle : UInt32)
  | gemOpen (name : UInt32)
  | primeHandleToFd (handle flags : UInt32)
  | primeFdToHandle (fd : Descriptor) (flags : UInt32)
  | rockchipGemCreate (size : Nat) (flags : UInt32)
  | rockchipGemMapOffset (handle : UInt32)
  | vmwAllocDmabuf (size padding : UInt32)
  | vmwUnrefDmabuf (handle : UInt32)
  deriving DecidableEq

/-- The reply to a request for the driver's name: what the buffer holds
afterwards, and the length that the kernel reports. -/
structure NameReply (capacity : Nat) where
  buffer : Vector UInt8 capacity
  length : Nat

/-- The reply to the opening of a named object. -/
structure OpenReply where
  handle : UInt32
  size : Nat
  deriving DecidableEq

/-- The reply to the allocation of a DMA buffer. -/
structure DmabufReply where
  handle : UInt32
  /-- The place of the buffer in the device node. -/
  mapHandle : Nat
  /-- The place of the buffer in its guest memory region. -/
  gmrOffset : UInt32
  deriving DecidableEq

/-- The reply to a request that the device grants. -/
abbrev Request.Reply : Request → Type
  | .versionLength => Nat
  | .versionName capacity => NameReply capacity
  | .gemOpen _ => OpenReply
  | .primeHandleToFd .. => Int
  | .primeFdToHandle .. => UInt32
  | .rockchipGemCreate .. => UInt32
  | .rockchipGemMapOffset _ => Nat
  | .vmwAllocDmabuf .. => DmabufReply
  | .gemClose _ | .vmwUnrefDmabuf _ => Unit

end DrmSurface
