import DrmSurface.Driver.Basic

/-!
# The registry

Drivers are made by factories, and factories are found by the name that the
kernel reports for a device.

There are two groups.

* `Registry`, a map from names to factories of any type.  Installing a name
  again replaces its factory.
* Choosing a driver.  `Registry.create` looks a name up and calls the
  factory; `getDriver` does so among the backends of this build.
-/

namespace DrmSurface

/-- Factories by name. -/
structure Registry (φ : Type) where
  factories : SortedMap String φ

namespace Registry

variable {φ δ : Type}

instance : EmptyCollection (Registry φ) := ⟨⟨∅⟩⟩

instance : Inhabited (Registry φ) := ⟨∅⟩

/-- Registers a factory under a name. -/
def install (r : Registry φ) (name : String) (factory : φ) : Registry φ :=
  ⟨r.factories.insert name factory⟩

/-- The factory of a name. -/
def lookup? (r : Registry φ) (name : String) : Option φ := r.factories.get? name

/-- The number of names. -/
def count (r : Registry φ) : Nat := r.factories.size

/-- The names, ascending. -/
def names (r : Registry φ) : List String := r.factories.keys

/-! ## Choosing a driver -/

/-- Why there is no factory for a name: the backend is known and not
enabled, or nobody knows it. -/
def missing (name : String) : RegistryNotice :=
  if name ∈ Backend.known.map (·.name) then .notEnabled name else .unknown name

/-- Makes the driver registered under a name, with `make` to call a
factory.  There is none, and the log says why, if the name has no factory
or the factory fails. -/
def create (r : Registry φ) (make : φ → Prog (Except DriverError δ)) (name : String) :
    Prog (Option δ) := do
  Prog.log (.registry (.requested name))
  match r.lookup? name with
  | none =>
    Prog.log (.registry (missing name))
    return none
  | some factory =>
    match ← make factory with
    | .ok driver => return some driver
    | .error e =>
      Prog.log (.registry (.factoryFailed name e))
      return none

end Registry

/-- A factory of drivers for the device at hand. -/
abbrev Factory : Type := Prog (Except DriverError Driver)

/-- The factory of a backend. -/
def Backend.factory (b : Backend) : Factory := do
  Prog.log (.driver b .creating)
  return .ok (← Driver.new b)

/-- The backends that are enabled in this build. -/
def Registry.builtin : Registry Factory :=
  (Backend.known.filter (·.isEnabled)).foldl (fun r b => r.install b.name b.factory) ∅

/-- Makes a driver of a backend of this build. -/
def getDriver (name : String) : Prog (Option Driver) := Registry.builtin.create id name

end DrmSurface
