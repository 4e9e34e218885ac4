import DrmSurface.Prog
import DrmSurface.Text.Utf8

/-!
# Asking the device

The requests of the device as programs.  Each one pairs a request with the
flags that it always carries, and reads the reply.

There are four groups.

* `DmabufWords`, the memory that an allocation of a DMA buffer and its reply share.
* The requests about objects, by handle, by name and by descriptor.
* `Device.driverName`, which asks for the length of a name and then for the
  name, and believes neither answer about more bytes than it has room for.
* Mappings.  `Device.map` refuses on its own what no device can grant.
-/

namespace DrmSurface

/-! ## Words of an allocation -/

/-- The words by which an allocation and its answer are passed.  These are the
words of the reply, and the first two of them are also the request. -/
structure DmabufWords where
  mapLow : UInt32
  mapHigh : UInt32
  handle : UInt32
  gmrId : UInt32
  gmrOffset : UInt32
  padding : UInt32
  deriving Inhabited

/-- An answer to an allocation: the words that it leaves behind, and its refusal
if it is one. -/
structure DmabufAnswer where
  left : DmabufWords
  refusal : Option Errno

namespace DmabufWords

/-- All words set to zero. -/
def cleared (_ : DmabufWords) : DmabufWords := ⟨0, 0, 0, 0, 0, 0⟩

/-- The size and the padding of a request written over the first two words. -/
def withRequest (words : DmabufWords) (size padding : UInt32) : DmabufWords :=
  { words with mapLow := size, mapHigh := padding }

/-- The words read as a request. -/
def request (words : DmabufWords) : Request := .vmwAllocDmabuf words.mapLow words.mapHigh

/-- The words read as a reply. -/
def reply (words : DmabufWords) : DmabufReply :=
  ⟨words.handle, words.mapLow.toNat + words.mapHigh.toNat * UInt32.size, words.gmrOffset⟩

/-- The words that the device is handed, whatever has been in memory. -/
def attempt (size : UInt32) (memory : DmabufWords) : DmabufWords :=
  memory.cleared.withRequest size 0

/-- The words that the device is handed in each attempt, with its answers, from
what is in memory at first. -/
def attempts (size : UInt32) (memory : DmabufWords) :
    List DmabufAnswer → List (DmabufWords × DmabufAnswer)
  | [] => []
  | answer :: answers =>
    (memory.attempt size, answer) ::
      if answer.refusal = some .restart then attempts size answer.left answers else []

theorem attempt_eq (size : UInt32) (memory : DmabufWords) :
    attempt size memory = ⟨size, 0, 0, 0, 0, 0⟩ := rfl

end DmabufWords

namespace Device

/-- Makes a request of the device. -/
def ioctl (request : Request) : Prog (Except Errno request.Reply) := .call (.ioctl request)

/-! ## Objects -/

/-- Gives up a handle. -/
def gemClose (handle : UInt32) : Prog (Except Errno Unit) := ioctl (.gemClose handle)

/-- Opens an object by its global name. -/
def gemOpen (name : UInt32) : Prog (Except Errno OpenReply) := ioctl (.gemOpen name)

/-- A descriptor for the object of a handle.  A negative number is no
descriptor, whatever the device says. -/
def primeHandleToFd (handle : UInt32) : Prog (Except Errno Descriptor) := do
  match ← ioctl (.primeHandleToFd handle primeExportFlags) with
  | .error e => return .error e
  | .ok number =>
    return if number < 0 then .error .badDescriptor else .ok ⟨number.toNat⟩

/-- A handle for the object of a descriptor. -/
def primeFdToHandle (fd : Descriptor) : Prog (Except Errno UInt32) :=
  ioctl (.primeFdToHandle fd 0)

/-- Allocates a Rockchip object. -/
def rockchipGemCreate (size : Nat) (flags : UInt32) : Prog (Except Errno UInt32) :=
  ioctl (.rockchipGemCreate size flags)

/-- The place of a Rockchip object in the device node. -/
def rockchipGemMapOffset (handle : UInt32) : Prog (Except Errno Nat) :=
  ioctl (.rockchipGemMapOffset handle)

/-- Whether an allocation was interrupted and shall be asked for again. -/
def isRestart : Except Errno DmabufReply → Bool
  | .error e => e = .restart
  | .ok _ => false

/-- Allocates a DMA buffer, asking again as long as the device wants to be
asked again.  Every attempt starts from new words, so it is the same request. -/
def vmwAllocDmabuf (size : UInt32) : Prog (Except Errno DmabufReply) :=
  .retry (.ioctl (DmabufWords.attempt size default).request) isRestart .done

theorem vmwAllocDmabuf_eq (size : UInt32) :
    vmwAllocDmabuf size = .retry (.ioctl (.vmwAllocDmabuf size 0)) isRestart .done := rfl

/-- Frees a DMA buffer. -/
def vmwUnrefDmabuf (handle : UInt32) : Prog (Except Errno Unit) := ioctl (.vmwUnrefDmabuf handle)

/-! ## The name of the driver -/

/-- Why the name of the driver behind a device cannot be told. -/
inductive NameError where
  /-- The device refused a request. -/
  | refused (cause : Errno)
  /-- The bytes of the name are no text. -/
  | malformed (cause : Text.Utf8Error)
  deriving DecidableEq

/-- The wording of a name error. -/
def NameError.message : NameError → String
  | .refused cause => cause.message
  | .malformed cause => cause.message

/-- The text of a name: as many bytes of the buffer as the device reports,
and never more than the buffer has. -/
def readName {capacity : Nat} (reply : NameReply capacity) : Except NameError String :=
  match Text.decodeUtf8 (reply.buffer.toList.take reply.length) with
  | .ok name => .ok name
  | .error e => .error (.malformed e)

/-- The name of the kernel driver behind the device. -/
def driverName : Prog (Except NameError String) := do
  match ← ioctl .versionLength with
  | .error e => return .error (.refused e)
  | .ok capacity =>
    match ← ioctl (.versionName capacity) with
    | .error e => return .error (.refused e)
    | .ok reply => return readName reply

/-! ## Mappings -/

/-- Maps `length` bytes from `offset` on.  A mapping has bytes, and an
offset fits a signed word. -/
def map (source : MapSource) (length offset : Nat) : Prog (Except Errno Mapping) :=
  if length = 0 then return .error .invalidArgument
  else if UInt64.size / 2 ≤ offset then return .error .valueTooLarge
  else do
    match ← Prog.call (.map source length offset) with
    | .error e => return .error e
    | .ok start => return .ok ⟨start, length⟩

/-- Gives a mapping back. -/
def unmap (mapping : Mapping) : Prog (Except Errno Unit) := Prog.call (.unmap mapping)

end Device

end DrmSurface
