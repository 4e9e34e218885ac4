import DrmSurface.Proofs.Ensures

/-!
# The runs of a program, exactly

`Prog.Ensures` takes a statement about all runs of a program apart.  This
module says which runs there are, and so also that there are any.

There are five groups.

* Calls and notices.
* Attempts.  `Attempt.runs_request_iff` goes on after a value that a program
  has given, and ends the attempt after an error.
* `Attempt.Decides`, for attempts that make no calls.  They are a value or an
  error.
* Runs that stop.  `Prog.Safe` is about programs that have none, and
  `Attempt.aborts_request_iff` leaves a request behind, since only what comes
  after it can stop.
* `Prog.Ends`, for programs that come to an end in every world, with a result or
  without.
-/

namespace DrmSurface

/-! ## Programs -/

namespace Prog

theorem runs_call_iff {c : Call} {t : List Exchange} {answer : c.Answer} :
    (call c).Runs t answer ↔ t = [⟨c, answer⟩] := by
  rw [call, runs_ask_iff]
  constructor
  · rintro ⟨_, rest, rfl, hdone⟩
    obtain ⟨rfl, rfl⟩ := runs_done_iff.1 hdone
    rfl
  · rintro rfl
    exact ⟨answer, [], rfl, .done answer⟩

theorem runs_log_iff {n : Notice} {t : List Exchange} {u : Unit} :
    (log n).Runs t u ↔ t = [⟨.log n, ()⟩] :=
  runs_call_iff

/-- A program that goes on after a call. -/
theorem runs_call_bind_iff {α : Type} {c : Call} {f : c.Answer → Prog α} {t : List Exchange}
    {a : α} : (call c >>= f).Runs t a ↔
      ∃ answer t', t = ⟨c, answer⟩ :: t' ∧ (f answer).Runs t' a :=
  runs_ask_iff

theorem runs_log_bind_iff {α : Type} {n : Notice} {f : Unit → Prog α} {t : List Exchange}
    {a : α} : (log n >>= f).Runs t a ↔ ∃ t', t = ⟨.log n, ()⟩ :: t' ∧ (f ()).Runs t' a := by
  refine runs_call_bind_iff.trans ⟨?_, fun h => ⟨(), h⟩⟩
  rintro ⟨_, h⟩
  exact h

end Prog

open Prog

/-! ## Attempts -/

namespace Attempt

variable {α β ε σ : Type} {t : List Exchange} {r : Except DriverError α}

theorem runs_pure_iff {a : α} : (pure a : Attempt α).run.Runs t r ↔ t = [] ∧ r = .ok a :=
  runs_done_iff

theorem runs_throw_iff {e : DriverError} :
    (throw e : Attempt α).run.Runs t r ↔ t = [] ∧ r = .error e :=
  runs_done_iff

theorem run_lift_bind {p : Prog β} {f : β → Attempt α} :
    (liftM p >>= f).run = p >>= fun b => (f b).run := by
  rw [ExceptT.run_bind, ExceptT.run_liftM, bind_map_left]

/-- An attempt that goes on after a program. -/
theorem runs_lift_bind_iff {p : Prog β} {f : β → Attempt α} :
    (liftM p >>= f).run.Runs t r ↔
      ∃ b t₁ t₂, t = t₁ ++ t₂ ∧ p.Runs t₁ b ∧ (f b).run.Runs t₂ r := by
  rw [run_lift_bind, runs_bind_iff]

theorem runs_log_bind_iff {n : Notice} {f : Unit → Attempt α} :
    (liftM (log n) >>= f).run.Runs t r ↔
      ∃ t', t = ⟨.log n, ()⟩ :: t' ∧ (f ()).run.Runs t' r := by
  rw [run_lift_bind, Prog.runs_log_bind_iff]

theorem runs_refuse_iff {outcome : Except ε β} {notice : ε → Notice} {error : ε → DriverError}
    {f : β → Attempt α} :
    (orRefuse outcome notice error >>= f).run.Runs t r ↔
      match outcome with
      | .ok b => (f b).run.Runs t r
      | .error e => t = [⟨.log (notice e), ()⟩] ∧ r = .error (error e) := by
  cases outcome with
  | ok b => rw [orRefuse, pure_bind]
  | error e =>
    rw [orRefuse, bind_assoc]
    refine runs_log_bind_iff.trans ?_
    constructor
    · rintro ⟨t', rfl, run⟩
      obtain ⟨rfl, rfl⟩ := runs_done_iff.1 run
      exact ⟨rfl, rfl⟩
    · rintro ⟨rfl, rfl⟩
      exact ⟨[], rfl, .done _⟩

/-- The same for the outcome of a program. -/
theorem runs_request_iff {p : Prog (Except ε β)} {notice : ε → Notice}
    {error : ε → DriverError} {f : β → Attempt α} :
    (liftM p >>= fun outcome => orRefuse outcome notice error >>= f : Attempt α).run.Runs t r ↔
      ∃ t₁ outcome, p.Runs t₁ outcome ∧
        match outcome with
        | .ok b => ∃ t₂, t = t₁ ++ t₂ ∧ (f b).run.Runs t₂ r
        | .error e => t = t₁ ++ [⟨.log (notice e), ()⟩] ∧ r = .error (error e) := by
  simp only [runs_lift_bind_iff, runs_refuse_iff]
  constructor
  · rintro ⟨outcome, t₁, t₂, rfl, run₁, run₂⟩
    refine ⟨t₁, outcome, run₁, ?_⟩
    cases outcome with
    | ok b => exact ⟨t₂, rfl, run₂⟩
    | error e =>
      obtain ⟨rfl, rfl⟩ := run₂
      exact ⟨rfl, rfl⟩
  · rintro ⟨t₁, outcome, run₁, hrest⟩
    cases outcome with
    | ok b =>
      obtain ⟨t₂, rfl, run₂⟩ := hrest
      exact ⟨.ok b, t₁, t₂, rfl, run₁, run₂⟩
    | error e =>
      obtain ⟨rfl, rfl⟩ := hrest
      exact ⟨.error e, t₁, _, rfl, run₁, rfl, rfl⟩

/-- An operation has the state that its attempt ends with, or if that fails the
state that it found. -/
theorem runs_commit_iff {s s' : σ} {m : Attempt (α × σ)} :
    (commit s m).Runs t (r, s') ↔
      ∃ outcome, m.run.Runs t outcome ∧
        match outcome with
        | .ok (a, s₁) => r = .ok a ∧ s' = s₁
        | .error e => r = .error e ∧ s' = s := by
  rw [commit, runs_bind_iff]
  constructor
  · rintro ⟨outcome, t₁, t₂, rfl, run₁, run₂⟩
    cases outcome <;> obtain ⟨rfl, heq⟩ := runs_done_iff.1 run₂ <;> rw [List.append_nil] <;>
      exact ⟨_, run₁, Prod.mk.inj heq⟩
  · rintro ⟨outcome, run, hend⟩
    refine ⟨outcome, t, [], (List.append_nil t).symm, run, ?_⟩
    cases outcome <;> obtain ⟨rfl, rfl⟩ := hend <;> exact .done _

/-! ## Attempts without calls -/

/-- The attempt makes no calls: it is a value that satisfies `Q`, or an error that
satisfies `E`. -/
def Decides (m : Attempt α) (Q : α → Prop) (E : DriverError → Prop) : Prop :=
  (∃ a, m = pure a ∧ Q a) ∨ ∃ e, m = throw e ∧ E e

variable {Q : α → Prop} {R : β → Prop} {E : DriverError → Prop}

theorem decides_pure {a : α} (h : Q a) : (pure a : Attempt α).Decides Q E := .inl ⟨a, rfl, h⟩

theorem decides_throw {e : DriverError} (h : E e) : (throw e : Attempt α).Decides Q E :=
  .inr ⟨e, rfl, h⟩

theorem decides_ofOption {value : Option α} {e : DriverError} (h : value = none → E e) :
    (ofOption value e).Decides (fun a => value = some a) E := by
  cases value with
  | some a => exact decides_pure rfl
  | none => exact decides_throw (h rfl)

theorem Decides.bind {m : Attempt β} {f : β → Attempt α} (hm : m.Decides R E)
    (hf : ∀ b, R b → (f b).Decides Q E) : (m >>= f).Decides Q E := by
  rcases hm with ⟨b, rfl, hb⟩ | ⟨e, rfl, he⟩
  · rw [pure_bind]
    exact hf b hb
  · exact decides_throw he

end Attempt

/-! ## Programs that stop -/

section Aborts

variable {α β ε σ : Type} {t : List Exchange} {cause : Panic}

/-- The program never stops without a result. -/
def Prog.Safe (p : Prog α) : Prop := ∀ t cause, ¬ p.Aborts t cause

namespace Prog

theorem safe_pure {a : α} : (pure a : Prog α).Safe := fun _ _ => not_aborts_done

theorem safe_call {c : Call} : (call c).Safe := by
  intro t cause h
  obtain ⟨answer, rest, -, hdone⟩ := aborts_ask_iff.1 h
  exact not_aborts_done hdone

theorem Safe.bind {p : Prog β} {f : β → Prog α} (hp : p.Safe) (hf : ∀ b, (f b).Safe) :
    (p >>= f).Safe := by
  intro t cause h
  rcases aborts_bind_iff.1 h with h | ⟨b, t₁, t₂, -, -, h⟩
  · exact hp _ _ h
  · exact hf b _ _ h

/-- Asking again does not stop a program, as often as it happens. -/
theorem safe_retry {c : Call} {again : c.Answer → Bool} {next : c.Answer → Prog α}
    (h : ∀ answer, (next answer).Safe) : (retry c again next).Safe := by
  intro t cause stops
  generalize hp : retry c again next = p at stops
  induction stops with
  | abort | ask => cases hp
  | again _ _ _ ih =>
    cases hp
    exact ih rfl
  | settled answer _ rest =>
    cases hp
    exact h answer _ _ rest

theorem safe_logFailure {outcome : Except ε Unit} {notice : ε → Notice} :
    (logFailure outcome notice).Safe := by
  cases outcome with
  | ok _ => exact safe_pure
  | error e => exact safe_call

/-- After a program that never stops, only what comes next can. -/
theorem Safe.aborts_bind_iff {p : Prog β} {f : β → Prog α} (hp : p.Safe) :
    (p >>= f).Aborts t cause ↔ ∃ b t₁ t₂, t = t₁ ++ t₂ ∧ p.Runs t₁ b ∧ (f b).Aborts t₂ cause :=
  Prog.aborts_bind_iff.trans (or_iff_right (hp t cause))

/-- A program that goes on with nothing that stops. -/
theorem aborts_bind_iff_of_safe {p : Prog β} {f : β → Prog α} (hf : ∀ b, (f b).Safe) :
    (p >>= f).Aborts t cause ↔ p.Aborts t cause := by
  refine Prog.aborts_bind_iff.trans (or_iff_left ?_)
  rintro ⟨b, t₁, t₂, -, -, h⟩
  exact hf b _ _ h

theorem aborts_call_bind_iff {c : Call} {f : c.Answer → Prog α} :
    (call c >>= f).Aborts t cause ↔
      ∃ answer t', t = ⟨c, answer⟩ :: t' ∧ (f answer).Aborts t' cause :=
  aborts_ask_iff

theorem aborts_log_bind_iff {n : Notice} {f : Unit → Prog α} :
    (log n >>= f).Aborts t cause ↔ ∃ t', t = ⟨.log n, ()⟩ :: t' ∧ (f ()).Aborts t' cause := by
  refine aborts_call_bind_iff.trans ⟨?_, fun h => ⟨(), h⟩⟩
  rintro ⟨_, h⟩
  exact h

end Prog

theorem Device.map_safe {source : MapSource} {length offset : Nat} :
    (Device.map source length offset).Safe := by
  unfold Device.map
  split
  · exact Prog.safe_pure
  · split
    · exact Prog.safe_pure
    · refine Prog.safe_call.bind fun outcome => ?_
      cases outcome <;> exact Prog.safe_pure

namespace Attempt

theorem safe_throw {e : DriverError} : (throw e : Attempt α).run.Safe := Prog.safe_pure

theorem safe_pure {a : α} : (pure a : Attempt α).run.Safe := Prog.safe_pure

theorem safe_lift {p : Prog α} (h : p.Safe) : (liftM p : Attempt α).run.Safe := by
  rw [ExceptT.run_liftM, ← bind_pure_comp]
  exact h.bind fun _ => Prog.safe_pure

theorem safe_bind {m : Attempt β} {f : β → Attempt α} (hm : m.run.Safe)
    (hf : ∀ b, (f b).run.Safe) : (m >>= f).run.Safe := by
  rw [ExceptT.run_bind]
  refine hm.bind fun outcome => ?_
  cases outcome with
  | ok b => exact hf b
  | error e => exact Prog.safe_pure

theorem safe_orRefuse {outcome : Except ε α} {notice : ε → Notice} {error : ε → DriverError} :
    (orRefuse outcome notice error).run.Safe := by
  cases outcome with
  | ok a => exact Prog.safe_pure
  | error e => exact safe_bind (safe_lift Prog.safe_call) fun _ => safe_throw

theorem safe_ofOption {value : Option α} {e : DriverError} : (ofOption value e).run.Safe := by
  cases value with
  | some a => exact Prog.safe_pure
  | none => exact Prog.safe_pure

theorem safe_commit {s : σ} {m : Attempt (α × σ)} (h : m.run.Safe) : (commit s m).Safe := by
  refine h.bind fun outcome => ?_
  cases outcome <;> exact Prog.safe_pure

theorem safe_observe {s : σ} {m : Attempt α} (h : m.run.Safe) : (observe s m).Safe :=
  h.bind fun _ => Prog.safe_pure

theorem aborts_lift_iff {p : Prog α} :
    (liftM p : Attempt α).run.Aborts t cause ↔ p.Aborts t cause := by
  rw [ExceptT.run_liftM, ← bind_pure_comp]
  exact aborts_bind_iff_of_safe fun _ => Prog.safe_pure

theorem aborts_commit_iff {s : σ} {m : Attempt (α × σ)} :
    (commit s m).Aborts t cause ↔ m.run.Aborts t cause :=
  aborts_bind_iff_of_safe fun outcome => by cases outcome <;> exact Prog.safe_pure

theorem aborts_log_bind_iff {n : Notice} {f : Unit → Attempt α} :
    (liftM (log n) >>= f).run.Aborts t cause ↔
      ∃ t', t = ⟨.log n, ()⟩ :: t' ∧ (f ()).run.Aborts t' cause := by
  rw [run_lift_bind, Prog.aborts_log_bind_iff]

/-- Only an attempt that has not been refused can still stop. -/
theorem aborts_refuse_iff {outcome : Except ε β} {notice : ε → Notice} {error : ε → DriverError}
    {f : β → Attempt α} :
    (orRefuse outcome notice error >>= f).run.Aborts t cause ↔
      ∃ b, outcome = .ok b ∧ (f b).run.Aborts t cause := by
  cases outcome with
  | ok b =>
    rw [orRefuse, pure_bind]
    refine ⟨fun h => ⟨b, rfl, h⟩, fun h => ?_⟩
    obtain ⟨_, heq, stops⟩ := h
    cases heq
    exact stops
  | error e =>
    refine iff_of_false (fun h => ?_) fun h => ?_
    · rw [orRefuse, bind_assoc, Attempt.aborts_log_bind_iff] at h
      obtain ⟨_, -, hthrown⟩ := h
      exact safe_throw _ _ hthrown
    · obtain ⟨_, heq, -⟩ := h
      cases heq

/-- The same for the outcome of a call. -/
theorem aborts_request_iff {p : Prog (Except ε β)} {notice : ε → Notice}
    {error : ε → DriverError} {f : β → Attempt α} (hp : p.Safe) :
    (liftM p >>= fun outcome => orRefuse outcome notice error >>= f : Attempt α).run.Aborts
        t cause ↔
      ∃ b t₁ t₂, t = t₁ ++ t₂ ∧ p.Runs t₁ (.ok b) ∧ (f b).run.Aborts t₂ cause := by
  simp only [run_lift_bind, hp.aborts_bind_iff, aborts_refuse_iff]
  constructor
  · rintro ⟨_, t₁, t₂, rfl, run, b, rfl, h⟩
    exact ⟨b, t₁, t₂, rfl, run, h⟩
  · rintro ⟨b, t₁, t₂, rfl, run, h⟩
    exact ⟨_, t₁, t₂, rfl, run, b, rfl, h⟩

end Attempt

end Aborts

/-! ## Programs that end -/

section Ends

variable {α β ε σ : Type}

/-- In each world that answers each call by a fixed rule, the program comes to an
end: it has a result, or it stops. -/
def Prog.Ends (p : Prog α) : Prop :=
  ∀ world : (c : Call) → c.Answer,
    (∃ t a, p.Runs t a ∧ ∀ x ∈ t, x.answer = world x.call) ∨
      ∃ t cause, p.Aborts t cause ∧ ∀ x ∈ t, x.answer = world x.call

namespace Prog

/-- A program that cannot stop has a run in each world. -/
theorem Ends.finishes {p : Prog α} (h : p.Ends) (safe : p.Safe)
    (world : (c : Call) → c.Answer) : ∃ t a, p.Runs t a ∧ ∀ x ∈ t, x.answer = world x.call := by
  rcases h world with hrun | ⟨t, cause, stops, -⟩
  · exact hrun
  · exact absurd stops (safe t cause)

theorem ends_pure {a : α} : (pure a : Prog α).Ends :=
  fun _ => .inl ⟨[], a, .done a, fun _ h => by cases h⟩

theorem ends_abort {cause : Panic} : (abort cause : Prog α).Ends :=
  fun _ => .inr ⟨[], cause, .abort cause, fun _ h => by cases h⟩

theorem ends_call {c : Call} : (call c).Ends :=
  fun world => .inl ⟨[⟨c, world c⟩], world c, runs_call_iff.2 rfl, by simp⟩

theorem Ends.bind {p : Prog β} {f : β → Prog α} (hp : p.Ends) (hf : ∀ b, (f b).Ends) :
    (p >>= f).Ends := by
  intro world
  rcases hp world with ⟨t₁, b, run₁, h₁⟩ | ⟨t, cause, stops, h⟩
  · rcases hf b world with ⟨t₂, a, run₂, h₂⟩ | ⟨t₂, cause, stops, h₂⟩
    · exact .inl ⟨t₁ ++ t₂, a, run₁.bind run₂,
        fun x hx => (List.mem_append.1 hx).elim (h₁ x) (h₂ x)⟩
    · exact .inr ⟨t₁ ++ t₂, cause, run₁.bind_aborts stops,
        fun x hx => (List.mem_append.1 hx).elim (h₁ x) (h₂ x)⟩
  · exact .inr ⟨t, cause, stops.bind, h⟩

theorem ends_logFailure {outcome : Except ε Unit} {notice : ε → Notice} :
    (logFailure outcome notice).Ends := by
  cases outcome with
  | ok _ => exact ends_pure
  | error e => exact ends_call

end Prog

namespace Attempt

theorem ends_throw {e : DriverError} : (throw e : Attempt α).run.Ends := Prog.ends_pure

theorem ends_lift {p : Prog α} (h : p.Ends) : (liftM p : Attempt α).run.Ends := by
  rw [ExceptT.run_liftM, ← bind_pure_comp]
  exact h.bind fun _ => Prog.ends_pure

theorem ends_bind {m : Attempt β} {f : β → Attempt α} (hm : m.run.Ends)
    (hf : ∀ b, (f b).run.Ends) : (m >>= f).run.Ends := by
  rw [ExceptT.run_bind]
  refine hm.bind fun outcome => ?_
  cases outcome with
  | ok b => exact hf b
  | error e => exact Prog.ends_pure

theorem ends_orRefuse {outcome : Except ε α} {notice : ε → Notice}
    {error : ε → DriverError} : (orRefuse outcome notice error).run.Ends := by
  cases outcome with
  | ok a => exact Prog.ends_pure
  | error e => exact ends_bind (ends_lift Prog.ends_call) fun _ => ends_throw

/-- An attempt that goes on with the outcome of a program. -/
theorem ends_request {p : Prog (Except ε β)} {notice : ε → Notice}
    {error : ε → DriverError} {f : β → Attempt α} (hp : p.Ends)
    (hf : ∀ b, (f b).run.Ends) :
    (liftM p >>= fun outcome => orRefuse outcome notice error >>= f : Attempt α).run.Ends :=
  ends_bind (ends_lift hp) fun _ => ends_bind ends_orRefuse hf

theorem ends_commit {s : σ} {m : Attempt (α × σ)} (h : m.run.Ends) : (commit s m).Ends := by
  refine h.bind fun outcome => ?_
  cases outcome <;> exact Prog.ends_pure

end Attempt

end Ends

end DrmSurface
