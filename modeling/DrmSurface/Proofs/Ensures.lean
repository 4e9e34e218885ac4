import DrmSurface.Device.Access
import DrmSurface.Driver.Attempt

/-!
# What every run of a program ensures

A program of the library is run by a world that answers as it likes.
`Prog.Ensures p P` says that each finished run of `p`, with the calls that
were made and their answers, satisfies `P`.  This module takes such a
statement about a program apart, along the way in which the program is put
together, until it speaks about answers only.

There are four groups.

* `Prog.Ensures` on the constructors of programs, on sequences and on calls.
* The same for attempts.  An attempt ends with a value or with an error, and
  `Attempt.ensures_bind_iff` goes on after a value only.  `Attempt.Quiet` and
  `Attempt.Yields` are about values alone, and `Attempt.FailsWith` about errors.
* The same for the requests of `Device`.
* `Prog.Asks`, the programs that make calls of one kind only.
-/

namespace DrmSurface

/-- A statement about all outcomes splits into one about values and one
about errors. -/
theorem forall_except_iff {ε α : Type} {P : Except ε α → Prop} :
    (∀ outcome, P outcome) ↔ (∀ a, P (.ok a)) ∧ ∀ e, P (.error e) := by
  constructor
  · intro h
    exact ⟨fun a => h (.ok a), fun e => h (.error e)⟩
  · rintro ⟨hok, herror⟩ (e | a)
    · exact herror e
    · exact hok a

namespace Prog

variable {α β : Type} {P Q : List Exchange → α → Prop}

/-! ## Programs -/

/-- Every finished run of `p` satisfies `P`. -/
def Ensures (p : Prog α) (P : List Exchange → α → Prop) : Prop :=
  ∀ trace a, p.Runs trace a → P trace a

theorem Ensures.mono {p : Prog α} (h : p.Ensures P) (hPQ : ∀ t a, P t a → Q t a) :
    p.Ensures Q :=
  fun t a run => hPQ t a (h t a run)

theorem ensures_done_iff {a : α} : (done a).Ensures P ↔ P [] a := by
  constructor
  · intro h
    exact h [] a (.done a)
  · intro h t b run
    obtain ⟨rfl, rfl⟩ := runs_done_iff.1 run
    exact h

theorem ensures_pure_iff {a : α} : (pure a : Prog α).Ensures P ↔ P [] a :=
  ensures_done_iff

theorem ensures_abort {cause : Panic} : (abort cause : Prog α).Ensures P :=
  fun _ _ run => absurd run not_runs_abort

theorem ensures_ask_iff {c : Call} {next : c.Answer → Prog α} :
    (ask c next).Ensures P ↔
      ∀ answer, (next answer).Ensures fun t a => P (⟨c, answer⟩ :: t) a := by
  constructor
  · intro h answer t a run
    exact h _ a (.ask answer run)
  · intro h t a run
    obtain ⟨answer, rest, rfl, hrest⟩ := runs_ask_iff.1 run
    exact h answer rest a hrest

theorem ensures_bind_iff {p : Prog β} {f : β → Prog α} :
    (p >>= f).Ensures P ↔
      p.Ensures fun t₁ b => (f b).Ensures fun t₂ a => P (t₁ ++ t₂) a := by
  constructor
  · intro h t₁ b run₁ t₂ a run₂
    exact h _ a (run₁.bind run₂)
  · intro h t a run
    obtain ⟨b, t₁, t₂, rfl, run₁, run₂⟩ := runs_bind_iff.1 run
    exact h t₁ b run₁ t₂ a run₂

/-- Whatever comes first, the result is that of what comes last. -/
theorem ensures_bind_of_forall {p : Prog β} {f : β → Prog α} {Q : α → Prop}
    (hf : ∀ b, (f b).Ensures fun _ a => Q a) : (p >>= f).Ensures fun _ a => Q a :=
  ensures_bind_iff.2 fun _ b _ => hf b

theorem ensures_map_iff {p : Prog β} {f : β → α} :
    (f <$> p).Ensures P ↔ p.Ensures fun t b => P t (f b) := by
  rw [← bind_pure_comp, ensures_bind_iff]
  simp only [ensures_pure_iff, List.append_nil]

theorem ensures_call_iff {c : Call} {P : List Exchange → c.Answer → Prop} :
    (call c).Ensures P ↔ ∀ answer, P [⟨c, answer⟩] answer := by
  rw [call, ensures_ask_iff]
  simp only [ensures_done_iff]

/-- Nothing has been done by a program that has stopped. -/
theorem ensures_bind_abort {p : Prog β} {cause : Panic} :
    (p >>= fun _ => (abort cause : Prog α)).Ensures P :=
  ensures_bind_iff.2 fun _ _ _ => ensures_abort

theorem ensures_log_iff {notice : Notice} {P : List Exchange → Unit → Prop} :
    (log notice).Ensures P ↔ P [⟨.log notice, ()⟩] () := by
  rw [log, ensures_call_iff]
  exact ⟨fun h => h (), fun h _ => h⟩

theorem ensures_logFailure_iff {ε : Type} {outcome : Except ε Unit} {notice : ε → Notice}
    {P : List Exchange → Unit → Prop} :
    (logFailure outcome notice).Ensures P ↔
      match outcome with
      | .ok _ => P [] ()
      | .error e => P [⟨.log (notice e), ()⟩] () := by
  cases outcome with
  | ok _ => exact ensures_pure_iff
  | error e => exact ensures_log_iff

/-- A program that may report something first and drops its result ensures of
its calls what it ensures with the report and without. -/
theorem ensures_reported {c : Prop} [Decidable c] {n : Notice} {p : Prog β}
    {P : List Exchange → Prop}
    (h : p.Ensures fun t _ => P t ∧ P (⟨.log n, ()⟩ :: t)) :
    (do
      if c then log n
      let _ ← p
      return () : Prog Unit).Ensures fun t _ => P t := by
  split
  · refine ensures_bind_iff.2 (ensures_log_iff.2 (ensures_bind_iff.2 (h.mono fun t _ ht => ?_)))
    rw [ensures_pure_iff, List.append_nil]
    exact ht.2
  · refine ensures_bind_iff.2 (h.mono fun t _ ht => ?_)
    rw [ensures_pure_iff, List.append_nil]
    exact ht.1

end Prog

/-! ## Attempts -/

namespace Attempt

open Prog

variable {α β ε σ : Type} {P : List Exchange → Except DriverError α → Prop}

theorem ensures_pure_iff {a : α} : (pure a : Attempt α).run.Ensures P ↔ P [] (.ok a) :=
  Prog.ensures_pure_iff

theorem ensures_throw_iff {e : DriverError} :
    (throw e : Attempt α).run.Ensures P ↔ P [] (.error e) :=
  Prog.ensures_pure_iff

theorem ensures_lift_iff {p : Prog α} :
    (liftM p : Attempt α).run.Ensures P ↔ p.Ensures fun t a => P t (.ok a) := by
  rw [ExceptT.run_liftM, ensures_map_iff]

/-- An attempt after another one.  After an error nothing more happens. -/
theorem ensures_bind_iff {m : Attempt β} {f : β → Attempt α} :
    (m >>= f).run.Ensures P ↔ m.run.Ensures fun t₁ outcome =>
      match outcome with
      | .ok b => (f b).run.Ensures fun t₂ r => P (t₁ ++ t₂) r
      | .error e => P t₁ (.error e) := by
  rw [ExceptT.run_bind, Prog.ensures_bind_iff]
  constructor <;> intro h t outcome run <;> have h := h t outcome run <;> cases outcome
  · simpa only [Prog.ensures_pure_iff, List.append_nil] using h
  · exact h
  · simpa only [Prog.ensures_pure_iff, List.append_nil] using h
  · exact h

theorem ensures_orRefuse_iff {outcome : Except ε α} {notice : ε → Notice}
    {error : ε → DriverError} :
    (orRefuse outcome notice error).run.Ensures P ↔
      match outcome with
      | .ok a => P [] (.ok a)
      | .error e => P [⟨.log (notice e), ()⟩] (.error (error e)) := by
  cases outcome with
  | ok a => exact ensures_pure_iff
  | error e =>
    simp only [orRefuse, ensures_bind_iff, ensures_lift_iff, ensures_log_iff,
      ensures_throw_iff, List.append_nil]

/-- An attempt that goes on with an outcome, or is over. -/
theorem ensures_refuse_iff {outcome : Except ε β} {notice : ε → Notice}
    {error : ε → DriverError} {f : β → Attempt α} :
    (orRefuse outcome notice error >>= f).run.Ensures P ↔
      match outcome with
      | .ok b => (f b).run.Ensures P
      | .error e => P [⟨.log (notice e), ()⟩] (.error (error e)) := by
  rw [ensures_bind_iff, ensures_orRefuse_iff]
  cases outcome <;> rfl

/-- The same for the outcome of a program. -/
theorem ensures_request_iff {p : Prog (Except ε β)} {notice : ε → Notice}
    {error : ε → DriverError} {f : β → Attempt α} :
    (liftM p >>= fun outcome => orRefuse outcome notice error >>= f : Attempt α).run.Ensures P ↔
      p.Ensures fun t outcome =>
        match outcome with
        | .ok b => (f b).run.Ensures fun t' r => P (t ++ t') r
        | .error e => P (t ++ [⟨.log (notice e), ()⟩]) (.error (error e)) := by
  rw [ensures_bind_iff, ensures_lift_iff]
  constructor <;> intro h t outcome run <;> have h := h t outcome run
  · cases outcome <;> exact ensures_refuse_iff.1 h
  · cases outcome <;> exact ensures_refuse_iff.2 h

theorem ensures_ofOption_iff {value : Option α} {e : DriverError} :
    (ofOption value e).run.Ensures P ↔
      match value with
      | some a => P [] (.ok a)
      | none => P [] (.error e) := by
  cases value with
  | some a => exact ensures_pure_iff
  | none => exact ensures_throw_iff

/-- An operation on a state keeps the state that it found if it fails. -/
theorem ensures_commit_iff {s : σ} {m : Attempt (α × σ)}
    {P : List Exchange → Except DriverError α × σ → Prop} :
    (commit s m).Ensures P ↔ m.run.Ensures fun t outcome =>
      match outcome with
      | .ok (a, s') => P t (.ok a, s')
      | .error e => P t (.error e, s) := by
  rw [commit, Prog.ensures_bind_iff]
  constructor <;> intro h t outcome run <;> have h := h t outcome run <;> cases outcome <;>
    simpa only [Prog.ensures_pure_iff, List.append_nil] using h

theorem ensures_observe_iff {s : σ} {m : Attempt α}
    {P : List Exchange → Except DriverError α × σ → Prop} :
    (observe s m).Ensures P ↔ m.run.Ensures fun t outcome => P t (outcome, s) := by
  rw [observe, Prog.ensures_bind_iff]
  simp only [Prog.ensures_pure_iff, List.append_nil]

/-- A run of an operation that only observes is one of its attempt. -/
theorem run_of_observe {s s' : σ} {m : Attempt α} {t : List Exchange} {r : Except DriverError α}
    (run : (observe s m).Runs t (r, s')) : m.run.Runs t r ∧ s' = s := by
  have h : (observe s m).Ensures fun t r => m.run.Runs t r.1 ∧ r.2 = s :=
    ensures_observe_iff.2 fun _ _ run => ⟨run, rfl⟩
  exact h t (r, s') run

theorem runs_observe_iff {s s' : σ} {m : Attempt α} {t : List Exchange}
    {r : Except DriverError α} : (observe s m).Runs t (r, s') ↔ m.run.Runs t r ∧ s' = s := by
  constructor
  · exact run_of_observe
  · rintro ⟨run, rfl⟩
    rw [← List.append_nil t]
    exact run.bind (.done _)

/-- The attempt makes no calls, and a value that it ends with satisfies `Q`. -/
def Quiet (m : Attempt α) (Q : α → Prop) : Prop :=
  m.run.Ensures fun t outcome => t = [] ∧ ∀ a, outcome = .ok a → Q a

theorem quiet_pure {a : α} {Q : α → Prop} (h : Q a) : (pure a : Attempt α).Quiet Q := by
  refine ensures_pure_iff.2 ⟨rfl, fun b hb => ?_⟩
  cases hb
  exact h

theorem quiet_throw {e : DriverError} {Q : α → Prop} : (throw e : Attempt α).Quiet Q := by
  refine ensures_throw_iff.2 ⟨rfl, fun b hb => ?_⟩
  cases hb

theorem quiet_ofOption {value : Option α} {e : DriverError} :
    (ofOption value e).Quiet fun a => value = some a := by
  cases value with
  | some a => exact quiet_pure rfl
  | none => exact quiet_throw

theorem ensures_bind_of_quiet {m : Attempt β} {f : β → Attempt α} {Q : β → Prop}
    (hm : m.Quiet Q) (hf : ∀ b, Q b → (f b).run.Ensures P) (herror : ∀ e, P [] (.error e)) :
    (m >>= f).run.Ensures P := by
  refine ensures_bind_iff.2 (hm.mono fun t outcome h => ?_)
  obtain ⟨rfl, hQ⟩ := h
  cases outcome with
  | ok b => exact hf b (hQ b rfl)
  | error e => exact herror e

theorem Quiet.mono {m : Attempt α} {Q Q' : α → Prop} (hm : m.Quiet Q) (h : ∀ a, Q a → Q' a) :
    m.Quiet Q' :=
  Ensures.mono hm fun _ _ ht => ⟨ht.1, fun a ha => h a (ht.2 a ha)⟩

theorem Quiet.bind {m : Attempt β} {f : β → Attempt α} {R : β → Prop} {Q : α → Prop}
    (hm : m.Quiet R) (hf : ∀ b, R b → (f b).Quiet Q) : (m >>= f).Quiet Q :=
  ensures_bind_of_quiet hm hf fun _ => ⟨rfl, fun a ha => by cases ha⟩

/-- Every value that an attempt ends with satisfies `Q`. -/
def Yields (m : Attempt α) (Q : α → Prop) : Prop :=
  m.run.Ensures fun _ outcome => ∀ a, outcome = .ok a → Q a

theorem yields_pure {a : α} {Q : α → Prop} (h : Q a) : (pure a : Attempt α).Yields Q := by
  refine ensures_pure_iff.2 fun b hb => ?_
  cases hb
  exact h

theorem yields_throw {e : DriverError} {Q : α → Prop} : (throw e : Attempt α).Yields Q := by
  refine ensures_throw_iff.2 fun b hb => ?_
  cases hb

theorem yields_lift {p : Prog α} {Q : α → Prop} (h : p.Ensures fun _ a => Q a) :
    (liftM p : Attempt α).Yields Q := by
  refine ensures_lift_iff.2 (h.mono fun t a ha b hb => ?_)
  cases hb
  exact ha

theorem yields_orRefuse {outcome : Except ε α} {notice : ε → Notice} {error : ε → DriverError} :
    (orRefuse outcome notice error).Yields fun a => outcome = .ok a := by
  refine ensures_orRefuse_iff.2 ?_
  cases outcome <;> simp

theorem yields_ofOption {value : Option α} {e : DriverError} :
    (ofOption value e).Yields fun a => value = some a := by
  refine ensures_ofOption_iff.2 ?_
  cases value <;> simp

theorem Yields.bind {m : Attempt β} {f : β → Attempt α} {R : β → Prop} {Q : α → Prop}
    (hm : m.Yields R) (hf : ∀ b, R b → (f b).Yields Q) : (m >>= f).Yields Q := by
  refine ensures_bind_iff.2 (hm.mono fun t outcome hR => ?_)
  cases outcome with
  | ok b => exact (hf b (hR b rfl)).mono fun _ _ h => h
  | error e =>
    intro a ha
    cases ha

/-- Whatever comes first, only what comes last yields the value. -/
theorem yields_bind_of_forall {m : Attempt β} {f : β → Attempt α} {Q : α → Prop}
    (hf : ∀ b, (f b).Yields Q) : (m >>= f).Yields Q :=
  Yields.bind (R := fun _ => True) (fun _ _ _ _ _ => trivial) fun b _ => hf b

/-- An operation on a state fails and keeps the state, or it ends with what
its attempt yields. -/
theorem Yields.commit {s : σ} {m : Attempt (α × σ)} {Q : α × σ → Prop} (h : m.Yields Q) :
    (commit s m).Ensures fun _ r =>
      (∃ e, r = (.error e, s)) ∨ ∃ a s', r = (.ok a, s') ∧ Q (a, s') := by
  refine ensures_commit_iff.2 (h.mono fun t outcome hQ => ?_)
  cases outcome with
  | ok a => exact .inr ⟨a.1, a.2, rfl, hQ a rfl⟩
  | error e => exact .inl ⟨e, rfl⟩

/-- Every error that an attempt ends with satisfies `E`. -/
def FailsWith (E : DriverError → Prop) (m : Attempt α) : Prop :=
  m.run.Ensures fun _ outcome => ∀ error, outcome = .error error → E error

section FailsWith

variable {E : DriverError → Prop}

theorem failsWith_pure {a : α} : FailsWith E (pure a : Attempt α) :=
  ensures_pure_iff.2 fun _ h => by cases h

theorem failsWith_throw {e : DriverError} (h : E e) : FailsWith E (throw e : Attempt α) := by
  refine ensures_throw_iff.2 fun error herror => ?_
  cases herror
  exact h

theorem failsWith_lift {p : Prog α} : FailsWith E (liftM p : Attempt α) :=
  ensures_lift_iff.2 fun _ _ _ _ h => by cases h

theorem failsWith_orRefuse {outcome : Except ε α} {notice : ε → Notice} {error : ε → DriverError}
    (h : ∀ e, E (error e)) : FailsWith E (orRefuse outcome notice error) := by
  refine ensures_orRefuse_iff.2 ?_
  cases outcome with
  | ok a => simp
  | error e => simpa using h e

theorem failsWith_ofOption {value : Option α} {e : DriverError} (h : E e) :
    FailsWith E (ofOption value e) := by
  cases value with
  | some a => exact failsWith_pure
  | none => exact failsWith_throw h

theorem FailsWith.bind {m : Attempt β} {f : β → Attempt α} (hm : FailsWith E m)
    (hf : ∀ b, FailsWith E (f b)) : FailsWith E (m >>= f) := by
  refine ensures_bind_iff.2 (hm.mono fun t outcome h => ?_)
  cases outcome with
  | ok b => exact hf b
  | error e => simpa using h e rfl

theorem FailsWith.commit {s : σ} {m : Attempt (α × σ)} (h : FailsWith E m) :
    (commit s m).Ensures fun _ r => ∀ error, r.1 = .error error → E error := by
  refine ensures_commit_iff.2 (h.mono fun t outcome hE => ?_)
  cases outcome with
  | ok a => simp
  | error e => simpa using hE e rfl

theorem FailsWith.observe {s : σ} {m : Attempt α} (h : FailsWith E m) :
    (observe s m).Ensures fun _ r => ∀ error, r.1 = .error error → E error :=
  ensures_observe_iff.2 h

end FailsWith

end Attempt

/-! ## Requests -/

namespace Device

open Prog

theorem ensures_ioctl_iff {request : Request}
    {P : List Exchange → Except Errno request.Reply → Prop} :
    (ioctl request).Ensures P ↔ ∀ answer, P [⟨.ioctl request, answer⟩] answer :=
  ensures_call_iff

/-- What the device may answer to an export: a descriptor, a number that is
no descriptor, or an error. -/
theorem ensures_primeHandleToFd_iff {handle : UInt32}
    {P : List Exchange → Except Errno Descriptor → Prop} :
    (primeHandleToFd handle).Ensures P ↔
      (∀ fd : Descriptor,
        P [⟨.ioctl (.primeHandleToFd handle primeExportFlags), .ok fd.number⟩] (.ok fd)) ∧
      (∀ number : Int, number < 0 →
        P [⟨.ioctl (.primeHandleToFd handle primeExportFlags), .ok number⟩]
          (.error .badDescriptor)) ∧
      ∀ e, P [⟨.ioctl (.primeHandleToFd handle primeExportFlags), .error e⟩] (.error e) := by
  rw [primeHandleToFd, ensures_bind_iff, ensures_ioctl_iff, forall_except_iff, ← and_assoc]
  simp only [ensures_pure_iff, List.append_nil]
  refine and_congr_left fun _ => ⟨fun h => ⟨fun fd => ?_, fun number hneg => ?_⟩, ?_⟩
  · have hnum : ¬ (fd.number : Int) < 0 := by omega
    have h := h (fd.number : Int)
    rwa [if_neg hnum, Int.toNat_natCast] at h
  · have h := h number
    rwa [if_pos hneg] at h
  · rintro ⟨hfd, hneg⟩ (number : Int)
    by_cases hnum : number < 0
    · rw [if_pos hnum]
      exact hneg number hnum
    · obtain ⟨n, rfl⟩ := Int.eq_ofNat_of_zero_le (Int.not_lt.1 hnum)
      rw [if_neg hnum, Int.toNat_natCast]
      exact hfd ⟨n⟩

/-- A mapping has the length that was asked for. -/
theorem ensures_map_iff {source : MapSource} {length offset : Nat}
    {P : List Exchange → Except Errno Mapping → Prop} :
    (map source length offset).Ensures P ↔
      if length = 0 then P [] (.error .invalidArgument)
      else if UInt64.size / 2 ≤ offset then P [] (.error .valueTooLarge)
      else (∀ start, P [⟨.map source length offset, .ok start⟩] (.ok ⟨start, length⟩)) ∧
        ∀ e, P [⟨.map source length offset, .error e⟩] (.error e) := by
  rw [map]
  split
  · exact ensures_pure_iff
  · split
    · exact ensures_pure_iff
    · rw [Prog.ensures_bind_iff, ensures_call_iff, forall_except_iff]
      simp only [Prog.ensures_pure_iff, List.append_nil]

/-- An allocation is asked for until the device no longer wants to be asked
again. -/
theorem ensures_vmwAllocDmabuf {size : UInt32} :
    (vmwAllocDmabuf size).Ensures fun t outcome => ∃ n,
      t = List.replicate n ⟨.ioctl (.vmwAllocDmabuf size 0), .error .restart⟩ ++
        [⟨.ioctl (.vmwAllocDmabuf size 0), outcome⟩] := by
  intro t outcome run
  rw [vmwAllocDmabuf_eq] at run
  generalize hp : Prog.retry _ _ _ = p at run
  induction run with
  | done | ask => cases hp
  | again answer hagain _ ih =>
    cases hp
    obtain ⟨n, rfl⟩ := ih rfl
    have hanswer : answer = .error .restart := by
      cases answer with
      | ok reply => cases hagain
      | error e => simpa [isRestart] using hagain
    exact ⟨n + 1, by rw [hanswer, List.replicate_succ, List.cons_append]⟩
  | settled answer _ rest _ =>
    cases hp
    obtain ⟨rfl, rfl⟩ := runs_done_iff.1 rest
    exact ⟨0, rfl⟩

/-- The last answer to an allocation does not ask for a repetition. -/
theorem isRestart_vmwAllocDmabuf {size : UInt32} :
    (vmwAllocDmabuf size).Ensures fun _ outcome => isRestart outcome = false := by
  intro t outcome run
  rw [vmwAllocDmabuf_eq] at run
  generalize hp : Prog.retry _ _ _ = p at run
  induction run with
  | done | ask => cases hp
  | again _ _ _ ih =>
    cases hp
    exact ih rfl
  | settled answer hsettled rest _ =>
    cases hp
    obtain ⟨-, rfl⟩ := runs_done_iff.1 rest
    exact hsettled

theorem map_length {source : MapSource} {length offset : Nat} :
    (map source length offset).Ensures fun _ outcome =>
      ∀ m, outcome = .ok m → m.length = length := by
  rw [ensures_map_iff]
  split
  · simp
  · split
    · simp
    · simp

theorem ensures_unmap_iff {mapping : Mapping} {P : List Exchange → Except Errno Unit → Prop} :
    (unmap mapping).Ensures P ↔ ∀ answer, P [⟨.unmap mapping, answer⟩] answer :=
  ensures_call_iff

end Device

/-! ## Calls of one kind -/

section Asks

variable {α β ε σ : Type} {ok ok' : Call → Prop}

/-- Every call that a run of `p` makes satisfies `ok`. -/
def Prog.Asks (ok : Call → Prop) (p : Prog α) : Prop :=
  p.Ensures fun trace _ => ∀ x ∈ trace, ok x.call

namespace Prog

theorem asks_pure {a : α} : Asks ok (pure a : Prog α) :=
  ensures_pure_iff.2 fun _ h => by cases h

theorem asks_call {c : Call} (h : ok c) : Asks ok (call c) := by
  refine ensures_call_iff.2 fun answer x hx => ?_
  rw [List.mem_singleton.1 hx]
  exact h

theorem Asks.bind {p : Prog β} {f : β → Prog α} (hp : Asks ok p) (hf : ∀ b, Asks ok (f b)) :
    Asks ok (p >>= f) := by
  refine ensures_bind_iff.2 (hp.mono fun t₁ b h₁ => (hf b).mono fun t₂ a h₂ x hx => ?_)
  rcases List.mem_append.1 hx with hx | hx
  · exact h₁ x hx
  · exact h₂ x hx

theorem Asks.mono {p : Prog α} (hp : Asks ok p) (h : ∀ c, ok c → ok' c) : Asks ok' p :=
  Ensures.mono hp fun _ _ ht x hx => h _ (ht x hx)

theorem asks_log {notice : Notice} (h : ∀ n, ok (.log n)) : Asks ok (log notice) :=
  asks_call (h notice)

theorem asks_logFailure {outcome : Except ε Unit} {notice : ε → Notice}
    (h : ∀ n, ok (.log n)) : Asks ok (logFailure outcome notice) := by
  cases outcome with
  | ok _ => exact asks_pure
  | error e => exact asks_log h

end Prog

theorem Device.map_asks {source : MapSource} {length offset : Nat}
    (h : ok (.map source length offset)) : Prog.Asks ok (Device.map source length offset) := by
  unfold Device.map
  split
  · exact Prog.asks_pure
  · split
    · exact Prog.asks_pure
    · refine Prog.Asks.bind (Prog.asks_call h) fun answer => ?_
      cases answer <;> exact Prog.asks_pure

namespace Attempt

open Prog

theorem asks_pure {a : α} : Asks ok (pure a : Attempt α).run := Prog.asks_pure

theorem asks_throw {e : DriverError} : Asks ok (throw e : Attempt α).run := Prog.asks_pure

theorem asks_lift {p : Prog α} (h : Asks ok p) : Asks ok (liftM p : Attempt α).run := by
  rw [ExceptT.run_liftM]
  exact ensures_map_iff.2 h

theorem asks_bind {m : Attempt β} {f : β → Attempt α} (hm : Asks ok m.run)
    (hf : ∀ b, Asks ok (f b).run) : Asks ok (m >>= f).run := by
  rw [ExceptT.run_bind]
  apply hm.bind
  intro outcome
  cases outcome with
  | ok b => exact hf b
  | error e => exact Prog.asks_pure

theorem asks_orRefuse {outcome : Except ε α} {notice : ε → Notice} {error : ε → DriverError}
    (h : ∀ n, ok (.log n)) : Asks ok (orRefuse outcome notice error).run := by
  cases outcome with
  | ok a => exact asks_pure
  | error e => exact asks_bind (asks_lift (asks_log h)) fun _ => asks_throw

theorem asks_ofOption {value : Option α} {e : DriverError} : Asks ok (ofOption value e).run := by
  cases value with
  | some a => exact asks_pure
  | none => exact asks_throw

theorem asks_commit {s : σ} {m : Attempt (α × σ)} (h : Asks ok m.run) : Asks ok (commit s m) := by
  apply h.bind
  intro outcome
  cases outcome <;> exact Prog.asks_pure

theorem asks_observe {s : σ} {m : Attempt α} (h : Asks ok m.run) : Asks ok (observe s m) :=
  h.bind fun _ => Prog.asks_pure

end Attempt

end Asks

end DrmSurface
