import DrmSurface.Prog

/-!
# Attempts

An attempt is a program that may give up with a driver error.  The
operations of a driver are attempts whose result carries the pool that they
leave behind.

`Attempt.commit` turns such an attempt into an operation on the pool.  An
attempt that gives up leaves the pool that it found, so a failed operation
changes nothing.
-/

namespace DrmSurface

/-- A program that may give up. -/
abbrev Attempt (α : Type) : Type := ExceptT DriverError Prog α

namespace Attempt

variable {α ε σ : Type}

/-- Goes on with a success.  A failure is logged and ends the attempt. -/
def orRefuse (outcome : Except ε α) (notice : ε → Notice) (error : ε → DriverError) :
    Attempt α :=
  match outcome with
  | .ok a => pure a
  | .error e => do
    Prog.log (notice e)
    throw (error e)

/-- Goes on with the value of an option, and ends the attempt without one. -/
def ofOption (value : Option α) (error : DriverError) : Attempt α :=
  match value with
  | some a => pure a
  | none => throw error

/-- Runs an attempt on a state.  Only a success changes the state. -/
def commit (state : σ) (attempt : Attempt (α × σ)) : Prog (Except DriverError α × σ) := do
  match ← attempt.run with
  | .ok (a, state') => return (.ok a, state')
  | .error e => return (.error e, state)

/-- Runs an attempt that reads a state and cannot change it. -/
def observe (state : σ) (attempt : Attempt α) : Prog (Except DriverError α × σ) := do
  return (← attempt.run, state)

end Attempt

/-- Logs the failure of a call that nothing else depends on. -/
def Prog.logFailure {ε : Type} (outcome : Except ε Unit) (notice : ε → Notice) : Prog Unit :=
  match outcome with
  | .ok _ => return ()
  | .error e => Prog.log (notice e)

end DrmSurface
