import DrmSurface.Driver.Basic
import DrmSurface.Probe.Options

/-!
# Probing a driver

A probe creates one buffer, shows what it got, tries out what the options
ask for, and destroys the buffer whatever happened.

There are three groups.

* `ProbeError`, which names the step that failed.
* The steps: `drawPattern` writes the number of each row of pixels all over
  the row, `tryMap` maps, draws and unmaps, and `tryFill` has the engine
  fill the pixels.
* `probe`, and `reportAndProbe`, which also describes the driver.
-/

namespace DrmSurface

/-! ## Errors -/

/-- The step of a probe that failed, and why. -/
inductive ProbeError where
  | create (cause : DriverError)
  | map (cause : DriverError)
  | unmap (cause : DriverError)
  | fill (cause : DriverError)
  | destroy (cause : DriverError)
  deriving DecidableEq

/-- The wording of a probe error and its causes, outermost first. -/
def ProbeError.chain : ProbeError → List String
  | create cause => "Failed to create buffer" :: cause.chain
  | map cause => "Failed to map buffer" :: cause.chain
  | unmap cause => "Failed to unmap buffer" :: cause.chain
  | fill cause => "Accelerated fill failed" :: cause.chain
  | destroy cause => "Failed to destroy buffer" :: cause.chain

/-! ## Steps -/

/-- Fills rows of bytes, each with its number. -/
def fillRows : Nat → List Span → Prog Unit
  | _, [] => return ()
  | row, line :: rest => do
    Prog.call (.fill line (UInt8.ofNat row))
    fillRows (row + 1) rest

/-- Fills every row of pixels of a mapped buffer with its number. -/
def drawPattern (s : Surface) : Prog Unit :=
  match s.pixels? with
  | none => return ()
  | some pixels => fillRows 0 (pixels.chunks s.geometry.pitch.toNat)

/-- Maps a buffer, draws the pattern and unmaps the buffer. -/
def tryMap (pageSize : Nat) (d : Driver) (id : BufferId) :
    Prog (Except ProbeError Unit × Driver) := do
  let (mapped, d) ← d.perform pageSize (.map id)
  match mapped with
  | .error e => return (.error (.map e), d)
  | .ok start =>
    Prog.print (.mappedAt start)
    match d.surface? id with
    | some s => drawPattern s
    | none => pure ()
    let (unmapped, d) ← d.perform pageSize (.unmap id)
    return (unmapped.mapError .unmap, d)

/-- Has the engine fill all pixels with one colour.  A driver that cannot
do that is no failure. -/
def tryFill (pageSize : Nat) (d : Driver) (id : BufferId) (size : PixelSize) (color : UInt32) :
    Prog (Except ProbeError Unit × Driver) := do
  if d.capabilities.contains .fillRect then
    let (filled, d) ← d.perform pageSize (.fillRect id (.full size.width size.height) color)
    match filled with
    | .error e => return (.error (.fill e), d)
    | .ok _ =>
      Prog.print (.filled color)
      return (.ok (), d)
  else
    Prog.log (.cannotFill d.name)
    return (.ok (), d)

/-- Tries out a buffer: first the mapping, if asked for, and after that the
fill. -/
def exercise (pageSize : Nat) (d : Driver) (id : BufferId) (options : ProbeOptions) :
    Prog (Except ProbeError Unit × Driver) := do
  let (mapped, d) ← if options.map then tryMap pageSize d id else pure (.ok (), d)
  match mapped, options.fillColor with
  | .error e, _ => return (.error e, d)
  | .ok _, none => return (.ok (), d)
  | .ok _, some color => tryFill pageSize d id options.size color

/-! ## The probe -/

/-- The surface that the options ask for. -/
def ProbeOptions.desc (options : ProbeOptions) : SurfaceDesc :=
  { format := options.format, headerSize := options.headerSize, width := options.size.width,
    height := options.size.height }

/-- Probes a driver. -/
def probe (pageSize : Nat) (d : Driver) (options : ProbeOptions) :
    Prog (Except ProbeError Unit × Driver) := do
  let (created, d) ← d.perform pageSize (.create options.desc options.placement)
  match created with
  | .error e => return (.error (.create e), d)
  | .ok id =>
    match d.surface? id with
    | some s => Prog.print (.buffer s)
    | none => pure ()
    let (outcome, d) ← exercise pageSize d id options
    let (destroyed, d) ← d.perform pageSize (.destroy id)
    match destroyed with
    | .error e => return (.error (.destroy e), d)
    | .ok _ => return (outcome, d)

/-- Describes a driver. -/
def reportDriver (d : Driver) : Prog Unit := do
  Prog.print (.driver d.name)
  Prog.print (.capabilities d.capabilities)
  match ← d.engineInfo with
  | some info => Prog.print (.engine info)
  | none => pure ()

/-- Describes a driver, probes it, and tells how many buffers are left. -/
def reportAndProbe (pageSize : Nat) (d : Driver) (options : ProbeOptions) :
    Prog (Except ProbeError Unit × Driver) := do
  reportDriver d
  let (outcome, d) ← probe pageSize d options
  Prog.print (.liveBuffers d.live)
  return (outcome, d)

end DrmSurface
