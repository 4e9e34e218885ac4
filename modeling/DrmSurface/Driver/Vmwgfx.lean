import DrmSurface.Buffer.Pool
import DrmSurface.Buffer.Surface
import DrmSurface.Device.Access
import DrmSurface.Driver.Operation

/-!
# The vmwgfx driver

Buffers of the VMware display adapter.  The kernel answers an allocation
with a place in the device node, and a mapping of the buffer is a mapping
of the node at that place.  There is no 2D engine, and buffers cannot be
shared, so none of the optional operations exists.

There are four groups.

* The state: a pool of buffers.
* Creation.
* Mapping and unmapping.
* Release, for one buffer and for the whole driver.
-/

namespace DrmSurface.Vmwgfx

/-! ## The state -/

/-- A buffer of the driver. -/
structure Buffer where
  surface : Surface
  /-- The place of the buffer in the device node. -/
  mapHandle : Nat
  /-- The place of the buffer in its guest memory region. -/
  gmrOffset : UInt32
  /-- How many mappings have not been undone. -/
  mapCount : UInt32
  deriving DecidableEq

/-- The driver. -/
abbrev State := Pool Buffer

/-- A notice of this driver. -/
def notice (n : DriverNotice) : Notice := .driver .vmwgfx n

/-! ## Creation -/

/-- Allocates a buffer.  The kernel takes sizes of 32 bits only. -/
def create (pool : State) (desc : SurfaceDesc) (placement : Placement) :
    Attempt (BufferId × State) := do
  let geometry ← Attempt.orRefuse (Geometry.compute .generic desc)
    (fun e => notice (.cannotCreate e)) .geometry
  if UInt32.size ≤ geometry.size then
    throw (.geometry (.overflow desc.width desc.height desc.headerSize))
  else
    let size := UInt32.ofNat geometry.size
    let reply ← Attempt.orRefuse (← Device.vmwAllocDmabuf size)
      (fun e => notice (.allocFailed size e)) (.kernel .allocDmabuf)
    let id := pool.nextId
    Prog.log (notice (.allocated id desc geometry reply.mapHandle))
    let buffer : Buffer :=
      { surface := .ofDesc id reply.handle desc geometry placement.isScanout
        mapHandle := reply.mapHandle, gmrOffset := reply.gmrOffset, mapCount := 0 }
    return (id, pool.add buffer)

/-! ## Mapping -/

/-- One more, up to the greatest word. -/
def countUp (n : UInt32) : UInt32 := if n = 0xffffffff then n else n + 1

/-- One less, down to zero. -/
def countDown (n : UInt32) : UInt32 := if n = 0 then n else n - 1

/-- Maps a buffer through the device node.  The place of the buffer has to be the
start of a page of the system. -/
def map (pageSize : Nat) (pool : State) (id : BufferId) : Attempt (Address × State) := do
  let buffer ← Attempt.ofOption (pool.get? id) (.noSuchBuffer id)
  if buffer.surface.isMapped then throw (.alreadyMapped id)
  else if buffer.mapHandle % pageSize ≠ 0 then do
    Prog.log (notice (.misaligned id buffer.mapHandle))
    throw (.kernel .map .invalidArgument)
  else
    let size := buffer.surface.geometry.size
    let mapping ← Attempt.orRefuse (← Device.map .device size buffer.mapHandle)
      (fun e => notice (.mapFailedAt e size buffer.mapHandle)) (.kernel .map)
    Prog.log (notice (.mapped id mapping.start))
    let buffer := { buffer with
      surface := { buffer.surface with mapping := some mapping }
      mapCount := countUp buffer.mapCount }
    return (mapping.start, pool.set id buffer)

/-- Unmaps a buffer.  The mapping is gone even if the kernel objects. -/
def unmap (pool : State) (id : BufferId) : Prog (Except DriverError Unit × State) :=
  match pool.get? id with
  | none => return (.error (.noSuchBuffer id), pool)
  | some buffer =>
    match buffer.surface.mapping with
    | none => return (.error (.notMapped id), pool)
    | some mapping => do
      let pool := pool.set id { buffer with
        surface := { buffer.surface with mapping := none }
        mapCount := countDown buffer.mapCount }
      match ← Device.unmap mapping with
      | .ok _ => return (.ok (), pool)
      | .error e =>
        Prog.log (notice (.unmapFailed e))
        return (.error (.kernel .unmap e), pool)

/-! ## Release -/

/-- Gives up the mapping of a buffer that is going away. -/
def releaseMapping (buffer : Buffer) : Prog Unit :=
  match buffer.surface.mapping with
  | none => return ()
  | some mapping => do
    Prog.logFailure (← Device.unmap mapping) fun e => notice (.unmapOfFailed buffer.surface.id e)

/-- Releases a buffer that has left the pool.  It stays counted unless the
kernel frees it. -/
def release (pool : State) (buffer : Buffer) : Prog State := do
  releaseMapping buffer
  match ← Device.vmwUnrefDmabuf buffer.surface.handle with
  | .ok _ =>
    Prog.log (notice (.destroyed buffer.surface.handle))
    return pool.freed
  | .error e =>
    Prog.log (notice (.freeFailed buffer.surface.handle e))
    return pool

/-- Destroys a buffer. -/
def destroy (pool : State) (id : BufferId) : Prog (Except DriverError Unit × State) :=
  match pool.get? id with
  | none => return (.error (.noSuchBuffer id), pool)
  | some buffer => do
    let pool ← release (pool.erase id) buffer
    return (.ok (), pool)

/-- Releases buffers one after another. -/
def releaseAll : State → List Buffer → Prog State
  | pool, [] => return pool
  | pool, buffer :: rest => do
    let pool ← release pool buffer
    releaseAll pool rest

/-- Ends the driver.  Buffers that are left are reported and released in
the order of their ids. -/
def teardown (pool : State) : Prog Unit := do
  if pool.live > 0 then Prog.log (notice (.leftover pool.live))
  let _ ← releaseAll pool.emptied pool.buffers.values
  return ()

/-! ## The operations table -/

/-- Runs an operation.  A descriptor that is handed over to an import is
closed, since there is no import. -/
def perform (pageSize : Nat) (pool : State) :
    (op : Operation) → Prog (Except DriverError op.Result × State)
  | .create desc placement => Attempt.commit pool (create pool desc placement)
  | .map id => Attempt.commit pool (map pageSize pool id)
  | .unmap id => unmap pool id
  | .destroy id => destroy pool id
  | .importPrime fd .. => do
    Prog.call (.close fd)
    return (.error (.notSupported .importPrime), pool)
  | .flush => return (.error (.notSupported .flush), pool)
  | .importHandle .. => return (.error (.notSupported .importHandle), pool)
  | .importName .. => return (.error (.notSupported .importName), pool)
  | .exportPrime _ => return (.error (.notSupported .exportPrime), pool)
  | .fillRect .. => return (.error (.notSupported .fillRect), pool)
  | .checkBlit .. => return (.error (.notSupported .checkBlit), pool)
  | .blit _ => return (.error (.notSupported .blit), pool)
  | .copy .. => return (.error (.notSupported .copy), pool)
  | .rotate .. => return (.error (.notSupported .rotate), pool)
  | .flip .. => return (.error (.notSupported .flip), pool)

end DrmSurface.Vmwgfx
