import DrmSurface.Probe.Arguments
import DrmSurface.Probe.Run
import DrmSurface.Registry

/-!
# The probe program

From the words of a command line to an exit code.

There are three groups.

* `ProgramError`, which says why a run failed, and its report.
* `Outcome`, how a run of the program ends.
* `program`, the whole run.
-/

namespace DrmSurface

/-! ## Failure -/

/-- Why a run fails. -/
inductive ProgramError where
  | option (cause : OptionError)
  | openDevice (path : String) (cause : Errno)
  | queryDriver (path : String) (cause : Device.NameError)
  | noDriver (name : String)
  | probe (cause : ProbeError)
  deriving DecidableEq

namespace ProgramError

/-- The wording of a failure and its causes, outermost first. -/
def chain : ProgramError → List String
  | option cause => cause.chain
  | openDevice path cause => [s!"Failed to open {path}", cause.message]
  | queryDriver path cause => [s!"Failed to query the driver of {path}", cause.message]
  | noDriver name => [s!"No usable driver for {name}"]
  | probe cause => cause.chain

end ProgramError

/-- The report on a chain of causes: the failure itself, and below it the
causes, with numbers if there are several. -/
def causeReport : List String → List String
  | [] => []
  | [failure] => [s!"Error: {failure}"]
  | [failure, cause] => [s!"Error: {failure}", "", "Caused by:", s!"    {cause}"]
  | failure :: causes =>
    [s!"Error: {failure}", "", "Caused by:"] ++
      causes.zipIdx.map fun (cause, i) => s!"    {i}: {cause}"

/-! ## Ends of a run -/

/-- How a run of the program ends. -/
inductive Outcome where
  | finished
  | failed (cause : ProgramError)
  /-- The command line is not understood, or asks for help. -/
  | misused (cause : UsageError)
  deriving DecidableEq, Inhabited

namespace Outcome

/-- The exit code of a run. -/
def code : Outcome → UInt32
  | finished => 0
  | failed _ => 1
  | misused .displayHelp => 0
  | misused _ => 2

/-- What a failed run writes about its failure. -/
def report : Outcome → List String
  | finished => []
  | failed cause => causeReport cause.chain
  | misused .displayHelp => ["Usage: drmbuf-probe [OPTIONS]"]
  | misused cause => [s!"error: {cause.name}", "", "Usage: drmbuf-probe [OPTIONS]"]

end Outcome

/-! ## The run -/

/-- Lists the backends and whether this build can make drivers of them. -/
def listBackends : Prog Unit := do
  Prog.print .interfaceVersion
  Backend.known.forM fun b =>
    Prog.print (.backend b (Registry.builtin.lookup? b.name).isSome)

/-- The name of the driver to use: the one asked for, or the one that the
device names. -/
def chooseName (options : ProbeOptions) : Prog (Except ProgramError String) :=
  match options.driver with
  | some name => return .ok name
  | none => do return (← Device.driverName).mapError (.queryDriver options.device)

/-- Opens the device, makes a driver and probes it. -/
def runProbe (pageSize : Nat) (options : ProbeOptions) : Prog (Except ProgramError Unit) := do
  match ← Prog.call (.openDevice options.device) with
  | .error e => return .error (.openDevice options.device e)
  | .ok _ =>
    match ← chooseName options with
    | .error e => return .error e
    | .ok name =>
      Prog.log (.usingDriver name options.device)
      match ← getDriver name with
      | none => return .error (.noDriver name)
      | some driver =>
        let (outcome, driver) ← reportAndProbe pageSize driver options
        let _ ← driver.teardown
        return outcome.mapError .probe

/-- The program.  Listing the backends comes before any option is read. -/
def program (pageSize : Nat) (words : List String) : Prog Outcome :=
  match Arguments.parse words with
  | .error .displayVersion => do
    Prog.print .programVersion
    return .finished
  | .error e => return .misused e
  | .ok arguments =>
    if arguments.list then do
      listBackends
      return .finished
    else match arguments.options {} with
    | .error e => return .failed (.option e)
    | .ok options => Prog.quieten options.logLevel do
      match ← runProbe pageSize options with
      | .ok _ => return .finished
      | .error e => return .failed e

end DrmSurface
