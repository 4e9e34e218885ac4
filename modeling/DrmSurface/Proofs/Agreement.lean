import DrmSurface.Proofs.Ensures
import DrmSurface.Proofs.History

/-!
# Two runs against one kernel

A driver talks to the kernel and to the engine.  This module compares two
runs that get their answers from the same kernel, while the engine answers
each of them as it likes.

There are four groups.

* `kernelCalls`, the calls of a run that the kernel has answered, and
  `Kernel.Answers`, which says that a kernel has given these answers.  A
  kernel may look at all that it was asked before.
* `Prog.Agree`.  Two programs agree if any two runs of them against one
  kernel ask the kernel the same and have related results.  Calls that are not
  for the kernel may come and go.
* The same for attempts, which also have to fail alike.
* The same for the requests of `Device`.
-/

namespace DrmSurface

open Prog (Exchange)

/-! ## The kernel -/

/-- A call that the kernel answers. -/
def Call.isKernel : Call → Bool
  | .engine _ | .log _ | .print _ => false
  | _ => true

/-- The calls that the kernel has answered. -/
def kernelCalls (trace : List Exchange) : List Exchange := trace.filter (·.call.isKernel)

@[simp] theorem kernelCalls_nil : kernelCalls [] = [] := rfl

@[simp] theorem kernelCalls_append (t₁ t₂ : List Exchange) :
    kernelCalls (t₁ ++ t₂) = kernelCalls t₁ ++ kernelCalls t₂ :=
  List.filter_append ..

theorem kernelCalls_eq_nil {trace : List Exchange}
    (h : ∀ x ∈ trace, x.call.isKernel = false) : kernelCalls trace = [] :=
  List.filter_eq_nil_iff.2 fun x hx => by simp [h x hx]

/-- How a kernel answers a call after all the calls that it has answered. -/
abbrev Kernel : Type := List Exchange → (c : Call) → c.Answer

/-- The kernel has given these answers after it has answered the past. -/
def Kernel.Answers (kernel : Kernel) : List Exchange → List Exchange → Prop
  | _, [] => True
  | past, x :: calls => x.answer = kernel past x.call ∧ kernel.Answers (past ++ [x]) calls

theorem Kernel.answers_append_iff {kernel : Kernel} {past c₁ c₂ : List Exchange} :
    kernel.Answers past (c₁ ++ c₂) ↔ kernel.Answers past c₁ ∧ kernel.Answers (past ++ c₁) c₂ := by
  induction c₁ generalizing past with
  | nil => simp [Answers]
  | cons x c₁ ih => simp [Answers, ih, and_assoc]

/-- A kernel that answers by a fixed rule. -/
theorem Kernel.answers_of_rule {world : (c : Call) → c.Answer} {past calls : List Exchange}
    (h : ∀ x ∈ calls, x.answer = world x.call) : Kernel.Answers (fun _ => world) past calls := by
  induction calls generalizing past with
  | nil => trivial
  | cons x calls ih =>
    exact ⟨h x (by simp), ih fun y hy => h y (by simp [hy])⟩

/-! ## Programs -/

namespace Prog

variable {α β γ δ : Type} {R : α → β → Prop} {S : γ → δ → Prop}

/-- Against one kernel the two programs ask the kernel the same, and their
results are related. -/
def Agree (R : α → β → Prop) (p : Prog α) (q : Prog β) : Prop :=
  ∀ (kernel : Kernel) (past t t' : List Exchange) (a : α) (b : β), p.Runs t a → q.Runs t' b →
    kernel.Answers past (kernelCalls t) → kernel.Answers past (kernelCalls t') →
    kernelCalls t = kernelCalls t' ∧ R a b

theorem agree_pure {a : α} {b : β} (h : R a b) : Agree R (pure a) (pure b) := by
  intro kernel past t t' a' b' run run' _ _
  obtain ⟨rfl, rfl⟩ := runs_done_iff.1 run
  obtain ⟨rfl, rfl⟩ := runs_done_iff.1 run'
  exact ⟨rfl, h⟩

theorem Agree.bind {p : Prog α} {q : Prog β} {f : α → Prog γ} {g : β → Prog δ}
    (h : Agree R p q) (hf : ∀ a b, R a b → Agree S (f a) (g b)) :
    Agree S (p >>= f) (q >>= g) := by
  intro kernel past t t' c d run run' answers answers'
  obtain ⟨a, t₁, t₂, rfl, run₁, run₂⟩ := runs_bind_iff.1 run
  obtain ⟨b, t₁', t₂', rfl, run₁', run₂'⟩ := runs_bind_iff.1 run'
  rw [kernelCalls_append, Kernel.answers_append_iff] at answers answers'
  obtain ⟨hcalls, hab⟩ := h kernel past _ _ a b run₁ run₁' answers.1 answers'.1
  -- The second parts start after the same past.
  rw [← hcalls] at answers'
  obtain ⟨hrest, hcd⟩ := hf a b hab kernel _ _ _ c d run₂ run₂' answers.2 answers'.2
  refine ⟨?_, hcd⟩
  rw [kernelCalls_append, kernelCalls_append, hcalls, hrest]

/-- The kernel answers one call in one way. -/
theorem agree_call (c : Call) (hc : c.isKernel) : Agree Eq (call c) (call c) := by
  intro kernel past t t' a b run run' answers answers'
  obtain ⟨a, t, rfl, hdone⟩ := runs_ask_iff.1 run
  obtain ⟨rfl, rfl⟩ := runs_done_iff.1 hdone
  obtain ⟨b, t', rfl, hdone'⟩ := runs_ask_iff.1 run'
  obtain ⟨rfl, rfl⟩ := runs_done_iff.1 hdone'
  have hcalls : ∀ answer : c.Answer, kernelCalls [⟨c, answer⟩] = [⟨c, answer⟩] := by
    intro answer
    simp [kernelCalls, hc]
  rw [hcalls] at answers answers'
  have hanswer : a = b := answers.1.trans answers'.1.symm
  exact ⟨by rw [hanswer], hanswer⟩

/-- Programs that do not ask the kernel agree if their results are related. -/
theorem agree_of_asks {p : Prog α} {q : Prog β} (hp : Asks (·.isKernel = false) p)
    (hq : Asks (·.isKernel = false) q)
    (h : ∀ t t' a b, p.Runs t a → q.Runs t' b → R a b) : Agree R p q := by
  intro kernel past t t' a b run run' _ _
  rw [kernelCalls_eq_nil (hp t a run), kernelCalls_eq_nil (hq t' b run')]
  exact ⟨rfl, h t t' a b run run'⟩

theorem agree_log {n n' : Notice} : Agree Eq (log n) (log n') :=
  agree_of_asks (asks_log fun _ => rfl) (asks_log fun _ => rfl) fun _ _ _ _ _ _ => rfl

theorem agree_logFailure {ε ε' : Type} {outcome : Except ε Unit} {outcome' : Except ε' Unit}
    {notice : ε → Notice} {notice' : ε' → Notice} :
    Agree Eq (logFailure outcome notice) (logFailure outcome' notice') :=
  agree_of_asks (asks_logFailure fun _ => rfl) (asks_logFailure fun _ => rfl)
    fun _ _ _ _ _ _ => rfl

end Prog

/-! ## Attempts -/

/-- The same error, or related values. -/
def Outcomes {ε α β : Type} (R : α → β → Prop) : Except ε α → Except ε β → Prop
  | .ok a, .ok b => R a b
  | .error e, .error e' => e = e'
  | _, _ => False

namespace Attempt

open Prog

variable {α β γ δ ε σ : Type} {R : α → β → Prop} {S : γ → δ → Prop}

theorem agree_pure {a : α} {b : β} (h : R a b) :
    Agree (Outcomes R) (pure a : Attempt α).run (pure b : Attempt β).run :=
  Prog.agree_pure h

theorem agree_throw {e : DriverError} :
    Agree (Outcomes R) (throw e : Attempt α).run (throw e : Attempt β).run :=
  Prog.agree_pure rfl

theorem agree_lift {p : Prog α} {q : Prog β} (h : Agree R p q) :
    Agree (Outcomes R) (liftM p : Attempt α).run (liftM q : Attempt β).run := by
  rw [ExceptT.run_liftM, ExceptT.run_liftM, ← bind_pure_comp, ← bind_pure_comp]
  exact h.bind fun a b hab => Prog.agree_pure hab

theorem agree_bind {m : Attempt α} {m' : Attempt β} {f : α → Attempt γ} {g : β → Attempt δ}
    (h : Agree (Outcomes R) m.run m'.run)
    (hf : ∀ a b, R a b → Agree (Outcomes S) (f a).run (g b).run) :
    Agree (Outcomes S) (m >>= f).run (m' >>= g).run := by
  rw [ExceptT.run_bind, ExceptT.run_bind]
  apply h.bind
  intro outcome outcome' hout
  cases outcome with
  | ok a =>
    cases outcome' with
    | ok b => exact hf a b hout
    | error e => cases hout
  | error e =>
    cases outcome' with
    | ok b => cases hout
    | error e' =>
      obtain rfl : e = e' := hout
      exact agree_throw

theorem agree_orRefuse {outcome : Except ε α} {notice : ε → Notice} {error : ε → DriverError} :
    Agree (Outcomes Eq) (orRefuse outcome notice error).run
      (orRefuse outcome notice error).run := by
  cases outcome with
  | ok a => exact agree_pure rfl
  | error e => exact agree_bind (agree_lift agree_log) fun _ _ _ => agree_throw

/-- Attempts that go on with one outcome. -/
theorem agree_refuse {outcome : Except ε α} {notice : ε → Notice} {error : ε → DriverError}
    {f : α → Attempt γ} {g : α → Attempt δ}
    (hf : ∀ a, Agree (Outcomes S) (f a).run (g a).run) :
    Agree (Outcomes S) (orRefuse outcome notice error >>= f).run
      (orRefuse outcome notice error >>= g).run := by
  apply agree_bind agree_orRefuse
  intro a b hab
  rw [← hab]
  exact hf a

/-- Attempts that go on with the outcome of one program. -/
theorem agree_request {p : Prog (Except ε α)} {notice : ε → Notice} {error : ε → DriverError}
    {f : α → Attempt γ} {g : α → Attempt δ} (hp : Agree Eq p p)
    (hf : ∀ a, Agree (Outcomes S) (f a).run (g a).run) :
    Agree (Outcomes S)
      (liftM p >>= fun outcome => orRefuse outcome notice error >>= f : Attempt γ).run
      (liftM p >>= fun outcome => orRefuse outcome notice error >>= g : Attempt δ).run := by
  apply agree_bind (agree_lift hp)
  intro outcome outcome' hout
  rw [← hout]
  exact agree_refuse hf

theorem agree_ofOption {value : Option α} {value' : Option β} {e : DriverError}
    (h : Option.Rel R value value') :
    Agree (Outcomes R) (ofOption value e).run (ofOption value' e).run := by
  cases h with
  | some hab => exact agree_pure hab
  | none => exact agree_throw

variable {s s' : σ} {T : σ → σ → Prop}

theorem agree_commit {m m' : Attempt (α × σ)} (hs : T s s')
    (h : Agree (Outcomes fun x y => x.1 = y.1 ∧ T x.2 y.2) m.run m'.run) :
    Agree (fun x y => x.1 = y.1 ∧ T x.2 y.2) (commit s m) (commit s' m') := by
  apply h.bind
  intro outcome outcome' hout
  cases outcome with
  | ok x =>
    cases outcome' with
    | ok y => exact Prog.agree_pure ⟨by rw [hout.1], hout.2⟩
    | error e => cases hout
  | error e =>
    cases outcome' with
    | ok y => cases hout
    | error e' =>
      obtain rfl : e = e' := hout
      exact Prog.agree_pure ⟨rfl, hs⟩

theorem agree_observe {m m' : Attempt α} (hs : T s s')
    (h : Agree (Outcomes Eq) m.run m'.run) :
    Agree (fun x y => x.1 = y.1 ∧ T x.2 y.2) (observe s m) (observe s' m') := by
  refine h.bind fun outcome outcome' hout => Prog.agree_pure ⟨?_, hs⟩
  cases outcome with
  | ok a =>
    cases outcome' with
    | ok b => exact congrArg Except.ok hout
    | error e => cases hout
  | error e =>
    cases outcome' with
    | ok b => cases hout
    | error e' => exact congrArg Except.error hout

end Attempt

/-! ## Requests -/

theorem Device.agree_primeHandleToFd {handle : UInt32} :
    Prog.Agree Eq (primeHandleToFd handle) (primeHandleToFd handle) := by
  apply (Prog.agree_call (.ioctl _) rfl).bind
  intro answer answer' h
  rw [← h]
  cases answer <;> exact Prog.agree_pure rfl

theorem Device.agree_map {source : MapSource} {length offset : Nat} :
    Prog.Agree Eq (map source length offset) (map source length offset) := by
  unfold map
  split
  · exact Prog.agree_pure rfl
  · split
    · exact Prog.agree_pure rfl
    · apply (Prog.agree_call (.map ..) rfl).bind
      intro answer answer' h
      rw [← h]
      cases answer <;> exact Prog.agree_pure rfl

end DrmSurface
