import DrmSurface.Proofs.Exact
import DrmSurface.Proofs.Utf8
import DrmSurface.Registry

/-!
# The registry as a map

A registry is a finite map from names to factories, however it has been filled, and a
driver is made by the factory of its name and by no other.

There are four groups.

* Installation.  What was installed last under a name is found there.
* The registry of this build, which has the factories of the enabled backends.
* Names.  They are in the order of their bytes, and each of them has a factory.
* Making a driver.  `create_runs_iff` says which runs `Registry.create` has, in terms of
  `Created`: the calls of the factory, what the registry itself reports, and the result.
-/

namespace DrmSurface

open Prog

namespace Registry

/-! ## Installation -/

section Installation

variable {φ : Type} {r : Registry φ} {name key : String} {f factory : φ}
  {installs : List (String × φ)}

/-- Installs factories one after another. -/
def installAll (r : Registry φ) (installs : List (String × φ)) : Registry φ :=
  installs.foldl (fun r i => r.install i.1 i.2) r

@[simp] theorem lookup?_empty : (∅ : Registry φ).lookup? name = none := rfl

@[simp] theorem lookup?_install :
    (r.install key factory).lookup? name = if name = key then some factory else r.lookup? name :=
  SortedMap.get?_insert ..

/-- The factory is installed under the name, and nothing is installed there later. -/
def LastInstalled (installs : List (String × φ)) (name : String) (f : φ) : Prop :=
  ∃ before after, installs = before ++ (name, f) :: after ∧ ∀ i ∈ after, i.1 ≠ name

theorem not_lastInstalled_nil : ¬LastInstalled [] name f := by
  rintro ⟨before, after, h, -⟩
  simp at h

theorem lastInstalled_cons_iff :
    LastInstalled ((key, factory) :: installs) name f ↔
      LastInstalled installs name f ∨
        (key = name ∧ factory = f) ∧ ∀ i ∈ installs, i.1 ≠ name := by
  constructor
  · rintro ⟨_ | ⟨_, before⟩, after, h, hafter⟩
    · obtain ⟨heq, rfl⟩ := List.cons.inj h
      exact .inr ⟨Prod.mk.inj heq, hafter⟩
    · exact .inl ⟨before, after, (List.cons.inj h).2, hafter⟩
  · rintro (⟨before, after, rfl, hafter⟩ | ⟨⟨rfl, rfl⟩, hrest⟩)
    · exact ⟨(key, factory) :: before, after, rfl, hafter⟩
    · exact ⟨[], installs, rfl, hrest⟩

/-- If no name is installed twice, then every install is the last one of its name. -/
theorem lastInstalled_iff_mem (h : (installs.map (·.1)).Nodup) :
    LastInstalled installs name f ↔ (name, f) ∈ installs := by
  constructor
  · rintro ⟨before, after, rfl, -⟩
    simp
  · intro hmem
    obtain ⟨before, after, rfl⟩ := List.append_of_mem hmem
    refine ⟨before, after, rfl, fun i hi heq => ?_⟩
    rw [List.map_append, List.map_cons] at h
    have hnotin := (List.nodup_cons.1 (List.nodup_append.1 h).2.1).1
    exact hnotin (List.mem_map.2 ⟨i, hi, heq⟩)

/-- A look-up finds what was installed last under the name, and what was there before if
nothing was. -/
theorem lookup?_installAll_iff :
    (r.installAll installs).lookup? name = some f ↔
      LastInstalled installs name f ∨
        (∀ i ∈ installs, i.1 ≠ name) ∧ r.lookup? name = some f := by
  induction installs generalizing r with
  | nil => simp [installAll, not_lastInstalled_nil]
  | cons i installs ih =>
    obtain ⟨key, factory⟩ := i
    have hstep : r.installAll ((key, factory) :: installs) =
      (r.install key factory).installAll installs := rfl
    rw [hstep, ih, lookup?_install, lastInstalled_cons_iff]
    by_cases hname : name = key
    · subst hname
      simp [and_comm]
    · simp [hname, Ne.symm hname]

end Installation

/-! ## The registry of this build -/

theorem builtin_eq_installAll : builtin =
    installAll ∅ ((Backend.known.filter (·.isEnabled)).map fun b => (b.name, b.factory)) := by
  rw [installAll, List.foldl_map]
  rfl

theorem lookup?_builtin_iff {name : String} {f : Factory} :
    builtin.lookup? name = some f ↔
      ∃ b ∈ Backend.known, b.isEnabled ∧ b.name = name ∧ f = b.factory := by
  have hnodup : (((Backend.known.filter (·.isEnabled)).map
      fun b => (b.name, b.factory)).map (·.1)).Nodup := by
    rw [List.map_map]
    decide
  rw [builtin_eq_installAll, lookup?_installAll_iff, lastInstalled_iff_mem hnodup]
  simp only [List.mem_map, List.mem_filter, Prod.mk.injEq, lookup?_empty, reduceCtorEq, and_false,
    or_false, and_assoc, eq_comm (a := f)]

/-! ## Names -/

section Names

variable {φ : Type} (r : Registry φ)

/-- The names are in strictly ascending order of their bytes. -/
theorem names_ascending :
    r.names.Pairwise fun a b => a.toUTF8.data.toList < b.toUTF8.data.toList := by
  rw [names, SortedMap.keys, List.pairwise_map]
  exact r.factories.ascending.imp fun h => Text.toUTF8_lt_of_lt (compareOfLessAndEq_eq_lt.1 h)

theorem nodup_names : r.names.Nodup :=
  (names_ascending r).imp fun h => by rintro rfl; exact List.lt_irrefl _ h

theorem mem_names_iff {name : String} : name ∈ r.names ↔ (r.lookup? name).isSome :=
  SortedMap.mem_keys_iff _ _

theorem count_eq_length_names : r.count = r.names.length :=
  (List.length_map _).symm

end Names

/-! ## Making a driver -/

section Making

variable {φ δ : Type} {r : Registry φ} {make : φ → Prog (Except DriverError δ)} {name : String}
  {t calls : List Exchange} {own : List RegistryNotice} {result : Option δ}

/-- How the making of a driver comes out: the calls that the factory makes, what the
registry reports after them, and the result.  A name without a factory makes no calls. -/
inductive Created (r : Registry φ) (make : φ → Prog (Except DriverError δ)) (name : String) :
    List Exchange → List RegistryNotice → Option δ → Prop where
  | made {factory : φ} {driver : δ} {calls : List Exchange}
      (hfactory : r.lookup? name = some factory)
      (hrun : (make factory).Runs calls (.ok driver)) : Created r make name calls [] (some driver)
  | failed {factory : φ} {e : DriverError} {calls : List Exchange}
      (hfactory : r.lookup? name = some factory)
      (hrun : (make factory).Runs calls (.error e)) :
      Created r make name calls [.factoryFailed name e] none
  | notEnabled (hnone : r.lookup? name = none) (hknown : name ∈ Backend.known.map (·.name)) :
      Created r make name [] [.notEnabled name] none
  | unknown (hnone : r.lookup? name = none) (hunknown : name ∉ Backend.known.map (·.name)) :
      Created r make name [] [.unknown name] none

/-- The registry reports an error if and only if there is no driver, and then one. -/
theorem Created.severity (h : Created r make name calls own result) :
    own.map (·.severity) = if result.isSome then [] else [.error] := by
  cases h <;> rfl

/-- The trace of a notice of the registry. -/
def logged (n : RegistryNotice) : Exchange := ⟨.log (.registry n), ()⟩

theorem create_runs_iff :
    (r.create make name).Runs t result ↔
      ∃ calls own, t = logged (.requested name) :: (calls ++ own.map logged) ∧
        Created r make name calls own result := by
  unfold create
  rw [runs_log_bind_iff]
  cases hlookup : r.lookup? name with
  | none =>
    simp only [runs_log_bind_iff]
    constructor
    · rintro ⟨_, rfl, _, rfl, run⟩
      obtain ⟨rfl, rfl⟩ := runs_done_iff.1 run
      refine ⟨[], [missing name], rfl, ?_⟩
      by_cases hknown : name ∈ Backend.known.map (·.name)
      · rw [missing, if_pos hknown]
        exact .notEnabled hlookup hknown
      · rw [missing, if_neg hknown]
        exact .unknown hlookup hknown
    · rintro ⟨calls, own, rfl, hcreated⟩
      cases hcreated with
      | made hfactory | failed hfactory => simp [hlookup] at hfactory
      | notEnabled _ hknown =>
        rw [missing, if_pos hknown]
        exact ⟨_, rfl, _, rfl, .done _⟩
      | unknown _ hunknown =>
        rw [missing, if_neg hunknown]
        exact ⟨_, rfl, _, rfl, .done _⟩
  | some factory =>
    simp only [runs_bind_iff]
    constructor
    · rintro ⟨_, rfl, outcome, calls, rest, rfl, hrun, run⟩
      cases outcome with
      | ok driver =>
        obtain ⟨rfl, rfl⟩ := runs_done_iff.1 run
        exact ⟨calls, [], rfl, .made hlookup hrun⟩
      | error e =>
        obtain ⟨_, rfl, hdone⟩ := runs_log_bind_iff.1 run
        obtain ⟨rfl, rfl⟩ := runs_done_iff.1 hdone
        exact ⟨calls, [.factoryFailed name e], rfl, .failed hlookup hrun⟩
    · rintro ⟨calls, own, rfl, hcreated⟩
      cases hcreated with
      | made hfactory hrun =>
        obtain rfl := Option.some.inj (hlookup.symm.trans hfactory)
        exact ⟨_, rfl, _, calls, _, rfl, hrun, .done _⟩
      | failed hfactory hrun =>
        obtain rfl := Option.some.inj (hlookup.symm.trans hfactory)
        exact ⟨_, rfl, _, calls, _, rfl, hrun, runs_log_bind_iff.2 ⟨_, rfl, .done _⟩⟩
      | notEnabled hnone | unknown hnone => simp [hlookup] at hnone

end Making

/-- A registry is a finite map, filled by installs of which the last of a name counts.
Its names are listed once each, in the order of their bytes, and they are those that have
a factory.  A driver is made by the one factory of its name, which is called once, and the
registry reports one error if there is no driver and none if there is. -/
theorem registry_is_finite_map :
    (∀ (φ : Type) installs name (f : φ),
      (installAll ∅ installs).lookup? name = some f ↔ LastInstalled installs name f) ∧
    (∀ installs name f, (builtin.installAll installs).lookup? name = some f ↔
      LastInstalled installs name f ∨ (∀ i ∈ installs, i.1 ≠ name) ∧
        ∃ b ∈ Backend.known, b.isEnabled ∧ b.name = name ∧ f = b.factory) ∧
    (∀ (φ : Type) (r : Registry φ),
      r.names.Pairwise (fun a b => a.toUTF8.data.toList < b.toUTF8.data.toList) ∧
      r.names.Nodup ∧ (∀ name, name ∈ r.names ↔ (r.lookup? name).isSome) ∧
      r.count = r.names.length) ∧
    (∀ (φ δ : Type) (r : Registry φ) (make : φ → Prog (Except DriverError δ)) name t result,
      (r.create make name).Runs t result ↔
        ∃ calls own, t = logged (.requested name) :: (calls ++ own.map logged) ∧
          Created r make name calls own result) ∧
    (∀ name, (RegistryNotice.requested name).severity ≠ .error) ∧
    ∀ (φ δ : Type) (r : Registry φ) (make : φ → Prog (Except DriverError δ)) name calls own result,
      Created r make name calls own result →
        own.map (·.severity) = if result.isSome then [] else [.error] := by
  refine ⟨fun φ installs name f => ?_, fun installs name f => ?_,
    fun φ r => ⟨names_ascending r, nodup_names r, fun name => mem_names_iff r,
      count_eq_length_names r⟩,
    fun φ δ r make name t result => create_runs_iff, fun name => nofun,
    fun φ δ r make name calls own result h => h.severity⟩
  · rw [lookup?_installAll_iff, lookup?_empty]
    simp
  · rw [lookup?_installAll_iff, lookup?_builtin_iff]

/-- The second factory of a name counts.  The Rockchip backend is known and not enabled. -/
theorem registry_is_finite_map_sample :
    (installAll (∅ : Registry Nat) [("b", 1), ("a", 2), ("b", 3)]).lookup? "b" = some 3 ∧
    (builtin.create id "rockchip").Runs
      [logged (.requested "rockchip"), logged (.notEnabled "rockchip")] none ∧
    [RegistryNotice.notEnabled "rockchip"].map (·.severity) = [.error] := by
  obtain ⟨hlookup, hbuiltin, -, hcreate, -, hseverity⟩ := registry_is_finite_map
  have hnone : builtin.lookup? "rockchip" = none := by
    refine Option.eq_none_iff_forall_ne_some.2 fun f hf => ?_
    rcases (hbuiltin [] _ f).1 hf with hlast | ⟨-, b, -, henabled, hname, -⟩
    · exact not_lastInstalled_nil hlast
    · cases b with
      | vmwgfx => exact absurd hname (by decide)
      | rockchip => cases henabled
  have hcreated : Created builtin id "rockchip" [] [.notEnabled "rockchip"] none :=
    .notEnabled hnone (by decide)
  refine ⟨?_, (hcreate _ _ _ _ _ _ _).2 ⟨[], _, rfl, hcreated⟩,
    hseverity _ _ _ _ _ _ _ _ hcreated⟩
  exact (hlookup _ _ _ _).2 ⟨[("b", 1), ("a", 2)], [], rfl, by simp⟩

end Registry

end DrmSurface
