/-!
# Log levels

A message has a severity, and a level says which severities get through.
-/

namespace DrmSurface

/-- How serious a message is. -/
inductive Severity where
  | error
  | warn
  | info
  | debug
  deriving DecidableEq

namespace Severity

/-- The label of a severity. -/
def label : Severity → String
  | error => "ERROR"
  | warn => "WARN"
  | info => "INFO"
  | debug => "DEBUG"

/-- The place of a severity; the most serious comes first. -/
def rank : Severity → Nat
  | error => 1
  | warn => 2
  | info => 3
  | debug => 4

end Severity

/-- How much is logged, from nothing to everything. -/
inductive LogLevel where
  | nothing
  | error
  | warning
  | info
  | debug
  | all
  deriving DecidableEq

namespace LogLevel

/-- The level of a number; numbers off either end take the end. -/
def ofInt (n : Int) : LogLevel :=
  if n ≤ 0 then nothing
  else if n = 1 then error
  else if n = 2 then warning
  else if n = 3 then info
  else if n = 4 then debug
  else all

/-- The number of a level. -/
def toNat : LogLevel → Nat
  | nothing => 0
  | error => 1
  | warning => 2
  | info => 3
  | debug => 4
  | all => 5

/-- The name of a level. -/
def name : LogLevel → String
  | nothing => "Nothing"
  | error => "Error"
  | warning => "Warning"
  | info => "Info"
  | debug => "Debug"
  | all => "All"

/-- The name of the filter that a level sets. -/
def filterName : LogLevel → String
  | nothing => "OFF"
  | error => "ERROR"
  | warning => "WARN"
  | info => "INFO"
  | debug => "DEBUG"
  | all => "TRACE"

/-- Whether a message of a severity gets through. -/
def allows (level : LogLevel) (s : Severity) : Bool := s.rank ≤ level.toNat

end LogLevel

end DrmSurface
