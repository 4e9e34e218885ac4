import DrmSurface.Buffer.Pool
import DrmSurface.Buffer.Surface
import DrmSurface.Device.Access
import DrmSurface.Driver.Operation

/-!
# The Rockchip driver

GEM objects that a 2D engine composes.  Every buffer, however it came to
be, gets a prime descriptor, and the engine imports it at once.  A buffer
for which that fails can still be mapped; only the operations of the engine
refuse it.

The engine counts the header rows of a buffer, so rectangles of pixels are
moved down by them before the engine sees them.  It counts rows in a word.  A
creation whose rows do not fit one stops the program when it has a descriptor
for the engine.

There are six groups.

* The state: a pool of buffers, each perhaps with a view of the engine.
* Wrapping, which makes the view.
* Creation: a fresh object, or one that exists under a handle, a name or a
  descriptor.
* Mapping, unmapping and sharing.
* Release, for one buffer and for the whole driver.
* The engine: fills, blits, and operations on whole buffers.
-/

namespace DrmSurface.Rockchip

/-! ## The state -/

/-- A buffer of the driver. -/
structure Buffer where
  surface : Surface
  /-- The engine's code of the format. -/
  nativeFormat : Int
  /-- The placement flags of the allocation; imports have none. -/
  flags : UInt32
  /-- The engine's view, once the engine has imported the buffer. -/
  view : Option EngineView
  deriving DecidableEq

/-- The driver. -/
abbrev State := Pool Buffer

/-- A notice of this driver. -/
def notice (n : DriverNotice) : Notice := .driver .rockchip n

/-- The flags of an allocation. -/
def placementFlags : Placement → UInt32
  | .scanout => contiguousFlag
  | .shadow => contiguousFlag ||| cachableFlag
  | .general => cachableFlag

/-- Asks the engine. -/
def engine (request : EngineRequest) : Prog request.Answer := Prog.call (.engine request)

/-- A new driver.  It logs what engine it has found. -/
def new : Prog State := do
  match ← engine .describe with
  | some info => Prog.log (notice (.engineInfo info))
  | none => pure ()
  return ∅

/-! ## Wrapping -/

/-- Gives a buffer a prime descriptor if it has none.  A failure is logged
and leaves the buffer without one. -/
def share (buffer : Buffer) : Prog Buffer :=
  match buffer.surface.prime with
  | some _ => return buffer
  | none => do
    match ← Device.primeHandleToFd buffer.surface.handle with
    | .ok fd => return { buffer with surface := { buffer.surface with prime := some fd } }
    | .error e =>
      Prog.log (notice (.handleToFdFailed e))
      return buffer

/-- The view of a buffer that the engine knows by a handle.  Its height is
that of all rows; a buffer with more rows than a word counts gets no view. -/
def viewOf (buffer : Buffer) (handle : EngineHandle) : EngineView :=
  { handle, width := buffer.surface.width
    height := buffer.surface.height + buffer.surface.geometry.headerRows
    format := buffer.nativeFormat, pitch := buffer.surface.geometry.pitch
    cpp := buffer.surface.geometry.layout.cpp, alpha := none }

/-- Has the engine import a buffer that has a prime descriptor.  A failure
is logged and leaves the buffer without a view.  If a word cannot hold the
count of the rows, then the program stops.  The buffer is dropped on the way,
which closes its descriptor and gives nothing back to the device. -/
def importView (buffer : Buffer) : Prog Buffer :=
  match buffer.surface.prime with
  | none => return buffer
  | some fd =>
    if buffer.surface.rows < UInt32.size then do
      let height := buffer.surface.height + buffer.surface.geometry.headerRows
      match ← engine (.importBuffer fd buffer.surface.width height buffer.nativeFormat) with
      | .ok handle => return { buffer with view := some (viewOf buffer handle) }
      | .error e =>
        Prog.log (notice (.importFailed e))
        return buffer
    else do
      Prog.call (.close fd)
      Prog.abort .addOverflow

/-- Makes a buffer known to the engine. -/
def wrap (buffer : Buffer) : Prog Buffer := do
  importView (← share buffer)

/-! ## Creation -/

/-- Where a buffer comes from, beside its geometry. -/
structure Origin where
  handle : UInt32
  name : Option UInt32 := none
  prime : Option Descriptor := none
  scanout : Bool := false
  flags : UInt32 := 0

/-- The buffer of an origin under an id, before it is wrapped. -/
def Origin.buffer (origin : Origin) (id : BufferId) (desc : SurfaceDesc) (geometry : Geometry) :
    Buffer :=
  { surface := { Surface.ofDesc id origin.handle desc geometry origin.scanout with
      name := origin.name, prime := origin.prime }
    nativeFormat := geometry.layout.native.getD 0
    flags := origin.flags, view := none }

/-- Wraps the buffer of an origin and takes it into the pool. -/
def admitted (pool : State) (origin : Origin) (desc : SurfaceDesc) (geometry : Geometry) :
    Prog (BufferId × State) := do
  let id := pool.nextId
  Prog.log (notice (.created id origin.handle desc geometry))
  let buffer ← wrap (origin.buffer id desc geometry)
  return (id, pool.add buffer)

/-- Allocates a buffer. -/
def create (pool : State) (desc : SurfaceDesc) (placement : Placement) :
    Attempt (BufferId × State) := do
  let geometry ← Attempt.orRefuse (Geometry.compute .rockchip desc)
    (fun e => notice (.cannotCreate e)) .geometry
  let flags := placementFlags placement
  let handle ← Attempt.orRefuse (← Device.rockchipGemCreate geometry.size flags)
    (fun e => notice (.createFailed e)) (.kernel .rockchipCreate)
  admitted pool { handle, scanout := placement.isScanout, flags } desc geometry

/-- The geometry of an import, checked against what its owner states. -/
def validated (source : ImportSource) (desc : SurfaceDesc) (pitch : UInt32)
    (size? : Option Nat) : Attempt Geometry :=
  Attempt.orRefuse (Geometry.validate .rockchip desc pitch size?)
    (fun e => notice (.badSurface source e desc pitch)) .geometry

/-- Takes over a local handle. -/
def importHandle (pool : State) (handle : UInt32) (size? : Option Nat) (desc : SurfaceDesc)
    (pitch : UInt32) : Attempt (BufferId × State) := do
  let geometry ← validated (.handle handle) desc pitch size?
  admitted pool { handle } desc geometry

/-- Opens a buffer by its global name.  An object that is too small for the
surface is given back. -/
def importName (pool : State) (name : UInt32) (desc : SurfaceDesc) (pitch : UInt32) :
    Attempt (BufferId × State) := do
  let geometry ← validated (.name name) desc pitch none
  let object ← Attempt.orRefuse (← Device.gemOpen name)
    (fun e => notice (.openFailed name e)) (.kernel .openName)
  if object.size < geometry.size then do
    Prog.log (notice (.objectTooSmall name object.size geometry.size))
    Prog.logFailure (← Device.gemClose object.handle) fun e => notice (.closeFailed e)
    throw (.exceedsDescriptor geometry.size object.size)
  else admitted pool { handle := object.handle, name := some name } desc geometry

/-- The geometry and the handle for a prime descriptor.  A stated size may
not exceed the size of the object, which stands in for a missing one. -/
def openPrime (fd : Descriptor) (size? : Option Nat) (desc : SurfaceDesc) (pitch : UInt32) :
    Attempt (Geometry × UInt32) := do
  let fileSize ← Attempt.orRefuse (← Prog.call (.size fd))
    (fun e => notice (.fdSizeFailed e)) (.kernel .fdSize)
  Prog.log (notice (.fdSize fileSize))
  let size := size?.getD fileSize
  if fileSize < size then do
    Prog.log (notice (.sizeExceedsFile size fileSize))
    throw (.exceedsDescriptor size fileSize)
  else
    let geometry ← validated .prime desc pitch (some size)
    let handle ← Attempt.orRefuse (← Device.primeFdToHandle fd)
      (fun e => notice (.fdToHandleFailed e)) (.kernel .fdToHandle)
    return (geometry, handle)

/-- Takes over a prime descriptor.  It is closed if the import fails. -/
def importPrime (pool : State) (fd : Descriptor) (size? : Option Nat) (desc : SurfaceDesc)
    (pitch : UInt32) : Prog (Except DriverError BufferId × State) := do
  match ← (openPrime fd size? desc pitch).run with
  | .error e =>
    Prog.call (.close fd)
    return (.error e, pool)
  | .ok (geometry, handle) =>
    let (id, pool) ← admitted pool { handle, prime := some fd } desc geometry
    return (.ok id, pool)

/-! ## Mapping and sharing -/

/-- What a buffer is mapped through: its prime descriptor, or the device
node at the place that the device names. -/
def mapSource (buffer : Buffer) : Attempt (MapSource × Nat) :=
  match buffer.surface.prime with
  | some fd => return (.descriptor fd, 0)
  | none => do
    let offset ← Attempt.orRefuse (← Device.rockchipGemMapOffset buffer.surface.handle)
      (fun e => notice (.mapOffsetFailed e)) (.kernel .rockchipMapOffset)
    return (.device, offset)

/-- Maps a buffer. -/
def map (pool : State) (id : BufferId) : Attempt (Address × State) := do
  let buffer ← Attempt.ofOption (pool.get? id) (.noSuchBuffer id)
  if buffer.surface.isMapped then throw (.alreadyMapped id)
  else
    let (source, offset) ← mapSource buffer
    let mapping ← Attempt.orRefuse (← Device.map source buffer.surface.geometry.size offset)
      (fun e => notice (.mapFailed e)) (.kernel .map)
    let buffer := { buffer with surface := { buffer.surface with mapping := some mapping } }
    return (mapping.start, pool.set id buffer)

/-- Unmaps a buffer.  The mapping is gone even if the kernel objects. -/
def unmap (pool : State) (id : BufferId) : Prog (Except DriverError Unit × State) :=
  match pool.get? id with
  | none => return (.error (.noSuchBuffer id), pool)
  | some buffer =>
    match buffer.surface.mapping with
    | none => return (.error (.notMapped id), pool)
    | some mapping => do
      let pool := pool.set id
        { buffer with surface := { buffer.surface with mapping := none } }
      match ← Device.unmap mapping with
      | .ok _ => return (.ok (), pool)
      | .error e =>
        Prog.log (notice (.unmapFailed e))
        return (.error (.kernel .unmap e), pool)

/-- The outcome of a kernel call that is refused without a notice. -/
def orKernelError {α : Type} (op : KernelOp) (outcome : Except Errno α) : Attempt α :=
  match outcome with
  | .ok a => pure a
  | .error e => throw (.kernel op e)

/-- A new descriptor of a buffer. -/
def exportPrime (pool : State) (id : BufferId) : Attempt Descriptor := do
  let buffer ← Attempt.ofOption (pool.get? id) (.noSuchBuffer id)
  match buffer.surface.prime with
  | some fd => orKernelError .duplicate (← Prog.call (.duplicate fd))
  | none => orKernelError .handleToFd (← Device.primeHandleToFd buffer.surface.handle)

/-! ## Release -/

/-- Gives up the mapping of a buffer that is going away. -/
def releaseMapping (buffer : Buffer) : Prog Unit :=
  match buffer.surface.mapping with
  | none => return ()
  | some mapping => do
    Prog.logFailure (← Device.unmap mapping) fun e => notice (.unmapFailed e)

/-- Gives up the engine's view of a buffer that is going away. -/
def releaseView (buffer : Buffer) : Prog Unit :=
  match buffer.view with
  | none => return ()
  | some view => do
    Prog.logFailure (← engine (.release view.handle)) fun e => notice (.engineFailed e)

/-- Gives up the prime descriptor of a buffer that is going away. -/
def releasePrime (buffer : Buffer) : Prog Unit :=
  match buffer.surface.prime with
  | none => return ()
  | some fd => Prog.call (.closePrime fd)

/-- Releases a buffer that has left the pool: its mapping, its view, its
descriptor and its object.  It stays counted unless the kernel frees it. -/
def release (pool : State) (buffer : Buffer) : Prog State := do
  releaseMapping buffer
  releaseView buffer
  releasePrime buffer
  match ← Device.gemClose buffer.surface.handle with
  | .ok _ =>
    Prog.log (notice (.destroyed buffer.surface.handle))
    return pool.freed
  | .error e =>
    Prog.log (notice (.closeFailed e))
    return pool

/-- Destroys a buffer. -/
def destroy (pool : State) (id : BufferId) : Prog (Except DriverError Unit × State) :=
  match pool.get? id with
  | none => return (.error (.noSuchBuffer id), pool)
  | some buffer => do
    let pool ← release (pool.erase id) buffer
    return (.ok (), pool)

/-- Releases buffers one after another. -/
def releaseAll : State → List Buffer → Prog State
  | pool, [] => return pool
  | pool, buffer :: rest => do
    let pool ← release pool buffer
    releaseAll pool rest

/-- Ends the driver.  Buffers that are left are reported and released in
the order of their ids. -/
def teardown (pool : State) : Prog Unit := do
  if pool.live > 0 then Prog.log (notice (.leftover pool.live))
  let _ ← releaseAll pool.emptied pool.buffers.values
  return ()

/-! ## The engine -/

/-- The engine's view of a buffer. -/
def viewed (buffer : Buffer) : Attempt EngineView :=
  Attempt.ofOption buffer.view (.notAccelerated buffer.surface.id)

/-- All pixels of a buffer, in the coordinates of the engine. -/
def wholeRect (buffer : Buffer) : Attempt EngineRect :=
  Attempt.ofOption
    ((Rect.full buffer.surface.width buffer.surface.height).toEngine?
      buffer.surface.geometry.headerRows)
    .outOfBounds

/-- A rectangle of a buffer in the coordinates of the engine. -/
def engineRect (buffer : Buffer) (rect : Rect) : Attempt EngineRect :=
  if rect.FitsWithin buffer.surface.width buffer.surface.height then
    Attempt.ofOption (rect.toEngine? buffer.surface.geometry.headerRows) .outOfBounds
  else throw .outOfBounds

/-- Makes a request that the engine may refuse. -/
def orEngineError (outcome : Except EngineError Unit) : Attempt Unit :=
  Attempt.orRefuse outcome (fun e => notice (.engineFailed e)) .engine

/-- Fills a rectangle of a buffer with one colour. -/
def fillRect (pool : State) (id : BufferId) (rect : Rect) (color : UInt32) : Attempt Unit := do
  let buffer ← Attempt.ofOption (pool.get? id) (.noSuchBuffer id)
  let view ← viewed buffer
  let target ← engineRect buffer rect
  orEngineError (← engine (.check none view .zero target .colorFill))
  orEngineError (← engine (.fill view target color))

/-- The alpha of the whole source. -/
def alphaOf : AlphaOp → Option UInt8
  | .none => none
  | .set alpha => some alpha

/-- The usage word and the parameters for the modes of a blit. -/
def translated (ops : BlitOps) : Attempt (Usage × EngineOptions) :=
  match translate ops with
  | .ok words => pure words
  | .error e => throw (.unsupportedMode e)

/-- Checks a blit: its modes, its buffers, its rectangles, and last with
the engine. -/
def checkBlit (pool : State) (src : BufferId) (srcRect : Rect) (dst : BufferId)
    (dstRect : Rect) (ops : BlitOps) : Attempt PreparedBlit := do
  let (usage, options) ← translated ops
  let source ← Attempt.ofOption (pool.get? src) (.noSuchBuffer src)
  let target ← Attempt.ofOption (pool.get? dst) (.noSuchBuffer dst)
  let alpha := alphaOf ops.alpha
  let sourceView ← viewed source
  let targetView ← viewed target
  let sourceRect ← engineRect source srcRect
  let targetRect ← engineRect target dstRect
  orEngineError
    (← engine (.check (some { sourceView with alpha }) targetView sourceRect targetRect usage))
  return { src, dst, srcRect := sourceRect, dstRect := targetRect, usage, options, alpha }

/-- Runs a blit that has been checked.  Its buffers may be gone. -/
def blit (pool : State) (prepared : PreparedBlit) : Attempt Unit := do
  let source ← Attempt.ofOption (pool.get? prepared.src) (.noSuchBuffer prepared.src)
  let sourceView ← viewed source
  let target ← Attempt.ofOption (pool.get? prepared.dst) (.noSuchBuffer prepared.dst)
  let targetView ← viewed target
  orEngineError
    (← engine (.process { sourceView with alpha := prepared.alpha } targetView
      prepared.srcRect prepared.dstRect prepared.options prepared.usage))

/-- The two sides of an operation on whole buffers. -/
structure WholePair where
  srcView : EngineView
  dstView : EngineView
  srcRect : EngineRect
  dstRect : EngineRect

/-- The views and the pixels of two buffers. -/
def wholePair (pool : State) (src dst : BufferId) : Attempt WholePair := do
  let source ← Attempt.ofOption (pool.get? src) (.noSuchBuffer src)
  let target ← Attempt.ofOption (pool.get? dst) (.noSuchBuffer dst)
  let srcView ← viewed source
  let dstView ← viewed target
  let srcRect ← wholeRect source
  let dstRect ← wholeRect target
  return { srcView, dstView, srcRect, dstRect }

/-- Checks and runs a request on whole buffers. -/
def processWhole (pair : WholePair) (usage : Usage) : Attempt Unit := do
  orEngineError
    (← engine (.check (some pair.srcView) pair.dstView pair.srcRect pair.dstRect usage))
  orEngineError
    (← engine (.process pair.srcView pair.dstView pair.srcRect pair.dstRect {} usage))

/-- Copies all pixels between buffers of equal size. -/
def copy (pool : State) (src dst : BufferId) : Attempt Unit := do
  let pair ← wholePair pool src dst
  if pair.srcRect.SameSize pair.dstRect then processWhole pair .sync
  else throw .dimensionMismatch

/-- Whether the sizes of two buffers suit a turn. -/
def TurnFits (op : CopyOp) (r s : EngineRect) : Prop :=
  if op.swapsAxes then r.TransposedSize s else r.SameSize s

instance (op : CopyOp) (r s : EngineRect) : Decidable (TurnFits op r s) := by
  unfold TurnFits
  infer_instance

/-- Turns all pixels.  The transform is looked at before the sizes. -/
def rotate (pool : State) (src dst : BufferId) (op : CopyOp) : Attempt Unit := do
  let pair ← wholePair pool src dst
  if op.isRotation then
    if TurnFits op pair.srcRect pair.dstRect then processWhole pair op.usage
    else throw .dimensionMismatch
  else throw (.unsupportedTransform .rotate)

/-- Mirrors all pixels.  The sizes are looked at before the transform. -/
def flip (pool : State) (src dst : BufferId) (op : CopyOp) : Attempt Unit := do
  let pair ← wholePair pool src dst
  if pair.srcRect.SameSize pair.dstRect then
    if op.isFlip then processWhole pair op.usage
    else throw (.unsupportedTransform .flip)
  else throw .dimensionMismatch

/-! ## The operations table -/

/-- Runs an operation. -/
def perform (pool : State) :
    (op : Operation) → Prog (Except DriverError op.Result × State)
  | .flush => return (.error (.notSupported .flush), pool)
  | .create desc placement => Attempt.commit pool (create pool desc placement)
  | .importHandle handle size? desc pitch =>
    Attempt.commit pool (importHandle pool handle size? desc pitch)
  | .importName name desc pitch => Attempt.commit pool (importName pool name desc pitch)
  | .importPrime fd size? desc pitch => importPrime pool fd size? desc pitch
  | .map id => Attempt.commit pool (map pool id)
  | .unmap id => unmap pool id
  | .destroy id => destroy pool id
  | .exportPrime id => Attempt.observe pool (exportPrime pool id)
  | .fillRect id rect color => Attempt.observe pool (fillRect pool id rect color)
  | .checkBlit src srcRect dst dstRect ops =>
    Attempt.observe pool (checkBlit pool src srcRect dst dstRect ops)
  | .blit prepared => Attempt.observe pool (blit pool prepared)
  | .copy src dst => Attempt.observe pool (copy pool src dst)
  | .rotate src dst op => Attempt.observe pool (rotate pool src dst op)
  | .flip src dst op => Attempt.observe pool (flip pool src dst op)

end DrmSurface.Rockchip
