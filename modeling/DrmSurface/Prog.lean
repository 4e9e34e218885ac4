import DrmSurface.Call

/-!
# Programs

A program is a tree of calls.  It says what is asked next for every answer
that the world may give, and nothing about how the world answers.

A program may also stop without a result.  It does so where a sum of words
overflows, which is checked when the program runs.

There are five groups.

* `Prog` and its monad, with the monad laws.
* Running by hand.  `Prog.view` shows the next call of a program together
  with the program that remains for each answer.
* `Prog.quieten`, which drops the notices that a log level holds back.
* `Prog.Runs`, the finished runs of a program: the calls that were made,
  the answers that were given, and the result.  `runs_bind_iff` takes a run
  of a sequence apart.
* `Prog.Aborts`, the runs that stop without a result.  A sequence stops in its
  first part, or in its second part after a finished run of the first
  (`aborts_bind_iff`).
-/

namespace DrmSurface

/-! ## Programs as trees -/

/-- Why a program stops without a result. -/
inductive Panic where
  /-- A sum does not fit its word. -/
  | addOverflow
  deriving DecidableEq

/-- The text of a panic. -/
def Panic.message : Panic → String
  | addOverflow => "attempt to add with overflow"

/-- A program with a result of type `α`. -/
inductive Prog (α : Type) where
  /-- The program has its result. -/
  | done (result : α)
  /-- The program stops.  What would have come after it is not done. -/
  | abort (cause : Panic)
  /-- The program makes a call and goes on with the answer. -/
  | ask (call : Call) (next : call.Answer → Prog α)
  /-- The program makes a call, once more after each answer that says so,
  and goes on with the first answer that does not. -/
  | retry (call : Call) (again : call.Answer → Bool) (next : call.Answer → Prog α)

namespace Prog

variable {α β γ : Type}

/-- One program after another. -/
def bind : Prog α → (α → Prog β) → Prog β
  | done a, f => f a
  | abort cause, _ => abort cause
  | ask c next, f => ask c fun answer => (next answer).bind f
  | retry c again next, f => retry c again fun answer => (next answer).bind f

instance : Monad Prog where
  pure := done
  bind := bind

@[simp] theorem pure_eq (a : α) : (pure a : Prog α) = done a := rfl

@[simp] theorem done_bind (a : α) (f : α → Prog β) : (done a >>= f) = f a := rfl

@[simp] theorem abort_bind (cause : Panic) (f : α → Prog β) :
    (abort cause >>= f) = abort cause := rfl

@[simp] theorem ask_bind (c : Call) (next : c.Answer → Prog α) (f : α → Prog β) :
    (ask c next >>= f) = ask c fun answer => next answer >>= f := rfl

@[simp] theorem retry_bind (c : Call) (again : c.Answer → Bool) (next : c.Answer → Prog α)
    (f : α → Prog β) :
    (retry c again next >>= f) = retry c again fun answer => next answer >>= f := rfl

private theorem bind_done_aux (p : Prog α) : p.bind done = p := by
  induction p with
  | done a => rfl
  | abort cause => rfl
  | ask c next ih =>
    rw [bind]
    congr 1
    funext answer
    exact ih answer
  | retry c again next ih =>
    rw [bind]
    congr 1
    funext answer
    exact ih answer

private theorem bind_assoc_aux (p : Prog α) (f : α → Prog β) (g : β → Prog γ) :
    (p.bind f).bind g = p.bind fun a => (f a).bind g := by
  induction p with
  | done a => rfl
  | abort cause => rfl
  | ask c next ih =>
    simp only [bind]
    congr 1
    funext answer
    exact ih answer
  | retry c again next ih =>
    simp only [bind]
    congr 1
    funext answer
    exact ih answer

instance : LawfulMonad Prog :=
  LawfulMonad.mk' Prog bind_done_aux (fun _ _ => rfl) bind_assoc_aux

/-- The program that makes one call and has the answer as its result. -/
def call (c : Call) : Prog c.Answer := ask c done

/-- Logs a notice. -/
def log (notice : Notice) : Prog Unit := call (.log notice)

/-- Writes an entry of the report. -/
def print (line : ReportLine) : Prog Unit := call (.print line)

/-! ## Running by hand -/

/-- What a program does next. -/
inductive View (α : Type) where
  /-- It has its result. -/
  | done (result : α)
  /-- It stops without a result. -/
  | abort (cause : Panic)
  /-- It makes a call and becomes another program. -/
  | ask (call : Call) (next : call.Answer → Prog α)

/-- What a program does next.  A call that may be repeated is followed by
the same program again. -/
def view : Prog α → View α
  | done a => .done a
  | abort cause => .abort cause
  | ask c next => .ask c next
  | retry c again next =>
    .ask c fun answer => if again answer then retry c again next else next answer

/-! ## Holding notices back -/

/-- The program without the notices that a log level holds back. -/
def quieten (level : LogLevel) : Prog α → Prog α
  | done a => done a
  | abort cause => abort cause
  | ask (.log notice) next =>
    if level.allows notice.severity then ask (.log notice) fun answer => (next answer).quieten level
    else (next ()).quieten level
  | ask c next => ask c fun answer => (next answer).quieten level
  | retry c again next => retry c again fun answer => (next answer).quieten level

/-! ## Finished runs -/

/-- A call and the answer to it. -/
structure Exchange where
  call : Call
  answer : call.Answer

/-- `p.Runs trace a` says that `p` can make the calls of `trace` in order,
get the answers of `trace`, and have the result `a`. -/
inductive Runs : Prog α → List Exchange → α → Prop where
  | done (a : α) : Runs (done a) [] a
  | ask {c : Call} {next : c.Answer → Prog α} {trace : List Exchange} {a : α}
      (answer : c.Answer) (rest : Runs (next answer) trace a) :
      Runs (ask c next) (⟨c, answer⟩ :: trace) a
  | again {c : Call} {again : c.Answer → Bool} {next : c.Answer → Prog α}
      {trace : List Exchange} {a : α} (answer : c.Answer) (h : again answer = true)
      (rest : Runs (retry c again next) trace a) :
      Runs (retry c again next) (⟨c, answer⟩ :: trace) a
  | settled {c : Call} {again : c.Answer → Bool} {next : c.Answer → Prog α}
      {trace : List Exchange} {a : α} (answer : c.Answer) (h : again answer = false)
      (rest : Runs (next answer) trace a) :
      Runs (retry c again next) (⟨c, answer⟩ :: trace) a

theorem runs_done_iff {a b : α} {trace : List Exchange} :
    (done a).Runs trace b ↔ trace = [] ∧ b = a := by
  constructor
  · intro h
    cases h
    exact ⟨rfl, rfl⟩
  · rintro ⟨rfl, rfl⟩
    exact .done _

theorem not_runs_abort {cause : Panic} {trace : List Exchange} {a : α} :
    ¬ (abort cause).Runs trace a := by
  intro h
  cases h

theorem runs_ask_iff {c : Call} {next : c.Answer → Prog α} {trace : List Exchange} {a : α} :
    (ask c next).Runs trace a ↔
      ∃ answer rest, trace = ⟨c, answer⟩ :: rest ∧ (next answer).Runs rest a := by
  constructor
  · intro h
    cases h with
    | ask answer rest => exact ⟨answer, _, rfl, rest⟩
  · rintro ⟨answer, rest, rfl, h⟩
    exact .ask answer h

theorem Runs.bind {p : Prog α} {f : α → Prog β} {t₁ t₂ : List Exchange} {a : α} {b : β}
    (h₁ : p.Runs t₁ a) (h₂ : (f a).Runs t₂ b) : (p >>= f).Runs (t₁ ++ t₂) b := by
  induction h₁ with
  | done a => exact h₂
  | ask answer _ ih => exact .ask answer (ih h₂)
  | again answer h _ ih => exact .again answer h (ih h₂)
  | settled answer h _ ih => exact .settled answer h (ih h₂)

/-- A run of a repeated call that settles: the answers that asked for a
repetition, and then a run that goes on with the last answer. -/
private theorem runs_retry_bind_aux {c : Call} {again : c.Answer → Bool}
    {next : c.Answer → Prog α} {f : α → Prog β} {trace : List Exchange} {b : β}
    (ih : ∀ answer trace, ((next answer).bind f).Runs trace b →
      ∃ a t₁ t₂, trace = t₁ ++ t₂ ∧ (next answer).Runs t₁ a ∧ (f a).Runs t₂ b)
    (h : (retry c again fun answer => (next answer).bind f).Runs trace b) :
    ∃ a t₁ t₂, trace = t₁ ++ t₂ ∧ (retry c again next).Runs t₁ a ∧ (f a).Runs t₂ b := by
  generalize hq : (retry c again fun answer => (next answer).bind f) = q at h
  induction h with
  | done b => cases hq
  | ask answer rest _ => cases hq
  | again answer hagain rest ih' =>
    cases hq
    obtain ⟨a, t₁, t₂, rfl, h₁, h₂⟩ := ih' ih rfl
    exact ⟨a, _, t₂, rfl, .again answer hagain h₁, h₂⟩
  | settled answer hagain rest _ =>
    cases hq
    obtain ⟨a, t₁, t₂, rfl, h₁, h₂⟩ := ih answer _ rest
    exact ⟨a, _, t₂, rfl, .settled answer hagain h₁, h₂⟩

private theorem runs_bind_aux (p : Prog α) (f : α → Prog β) (b : β) :
    ∀ trace : List Exchange, (p.bind f).Runs trace b →
      ∃ a t₁ t₂, trace = t₁ ++ t₂ ∧ p.Runs t₁ a ∧ (f a).Runs t₂ b := by
  induction p with
  | done a =>
    intro trace h
    exact ⟨a, [], trace, rfl, .done a, h⟩
  | abort cause =>
    intro trace h
    cases h
  | ask c next ih =>
    intro trace h
    obtain ⟨answer, rest, rfl, hrest⟩ := runs_ask_iff.1 h
    obtain ⟨a, t₁, t₂, rfl, h₁, h₂⟩ := ih answer rest hrest
    exact ⟨a, _, t₂, rfl, .ask answer h₁, h₂⟩
  | retry c again next ih =>
    intro trace h
    exact runs_retry_bind_aux ih h

/-- A run of a sequence is a run of its first part and then one of its
second part. -/
theorem runs_bind_iff {p : Prog α} {f : α → Prog β} {trace : List Exchange} {b : β} :
    (p >>= f).Runs trace b ↔
      ∃ a t₁ t₂, trace = t₁ ++ t₂ ∧ p.Runs t₁ a ∧ (f a).Runs t₂ b := by
  constructor
  · intro h
    exact runs_bind_aux p f b trace h
  · rintro ⟨a, t₁, t₂, rfl, h₁, h₂⟩
    exact h₁.bind h₂

theorem runs_bind_pure_iff {p : Prog α} {f : α → β} {trace : List Exchange} {b : β} :
    (p >>= fun a => pure (f a)).Runs trace b ↔ ∃ a, b = f a ∧ p.Runs trace a := by
  rw [runs_bind_iff]
  constructor
  · rintro ⟨a, t₁, t₂, rfl, h₁, h₂⟩
    obtain ⟨rfl, rfl⟩ := runs_done_iff.1 h₂
    exact ⟨a, rfl, by rwa [List.append_nil]⟩
  · rintro ⟨a, rfl, h⟩
    exact ⟨a, trace, [], (List.append_nil trace).symm, h, .done _⟩

/-! ## Runs that stop -/

/-- `p.Aborts trace cause` says that `p` can make the calls of `trace` in
order, get the answers of `trace`, and stop there without a result. -/
inductive Aborts : Prog α → List Exchange → Panic → Prop where
  | abort (cause : Panic) : Aborts (abort cause) [] cause
  | ask {c : Call} {next : c.Answer → Prog α} {trace : List Exchange} {cause : Panic}
      (answer : c.Answer) (rest : Aborts (next answer) trace cause) :
      Aborts (ask c next) (⟨c, answer⟩ :: trace) cause
  | again {c : Call} {again : c.Answer → Bool} {next : c.Answer → Prog α}
      {trace : List Exchange} {cause : Panic} (answer : c.Answer) (h : again answer = true)
      (rest : Aborts (retry c again next) trace cause) :
      Aborts (retry c again next) (⟨c, answer⟩ :: trace) cause
  | settled {c : Call} {again : c.Answer → Bool} {next : c.Answer → Prog α}
      {trace : List Exchange} {cause : Panic} (answer : c.Answer) (h : again answer = false)
      (rest : Aborts (next answer) trace cause) :
      Aborts (retry c again next) (⟨c, answer⟩ :: trace) cause

theorem not_aborts_done {a : α} {trace : List Exchange} {cause : Panic} :
    ¬ (done a).Aborts trace cause := by
  intro h
  cases h

theorem aborts_abort_iff {cause cause' : Panic} {trace : List Exchange} :
    (abort cause : Prog α).Aborts trace cause' ↔ trace = [] ∧ cause' = cause := by
  constructor
  · intro h
    cases h
    exact ⟨rfl, rfl⟩
  · rintro ⟨rfl, rfl⟩
    exact .abort _

theorem aborts_ask_iff {c : Call} {next : c.Answer → Prog α} {trace : List Exchange}
    {cause : Panic} : (ask c next).Aborts trace cause ↔
      ∃ answer rest, trace = ⟨c, answer⟩ :: rest ∧ (next answer).Aborts rest cause := by
  constructor
  · intro h
    cases h with
    | ask answer rest => exact ⟨answer, _, rfl, rest⟩
  · rintro ⟨answer, rest, rfl, h⟩
    exact .ask answer h

/-- A first part that stops is a sequence that stops. -/
theorem Aborts.bind {p : Prog α} {f : α → Prog β} {trace : List Exchange} {cause : Panic}
    (h : p.Aborts trace cause) : (p >>= f).Aborts trace cause := by
  induction h with
  | abort cause => exact .abort cause
  | ask answer _ ih => exact .ask answer ih
  | again answer h _ ih => exact .again answer h ih
  | settled answer h _ ih => exact .settled answer h ih

/-- A second part that stops after a finished first part. -/
theorem Runs.bind_aborts {p : Prog α} {f : α → Prog β} {t₁ t₂ : List Exchange} {a : α}
    {cause : Panic} (h₁ : p.Runs t₁ a) (h₂ : (f a).Aborts t₂ cause) :
    (p >>= f).Aborts (t₁ ++ t₂) cause := by
  induction h₁ with
  | done a => exact h₂
  | ask answer _ ih => exact .ask answer (ih h₂)
  | again answer h _ ih => exact .again answer h (ih h₂)
  | settled answer h _ ih => exact .settled answer h (ih h₂)

private theorem aborts_retry_bind_aux {c : Call} {again : c.Answer → Bool}
    {next : c.Answer → Prog α} {f : α → Prog β} {trace : List Exchange} {cause : Panic}
    (ih : ∀ answer trace, ((next answer).bind f).Aborts trace cause →
      (next answer).Aborts trace cause ∨
        ∃ a t₁ t₂, trace = t₁ ++ t₂ ∧ (next answer).Runs t₁ a ∧ (f a).Aborts t₂ cause)
    (h : (retry c again fun answer => (next answer).bind f).Aborts trace cause) :
    (retry c again next).Aborts trace cause ∨
      ∃ a t₁ t₂, trace = t₁ ++ t₂ ∧ (retry c again next).Runs t₁ a ∧ (f a).Aborts t₂ cause := by
  generalize hq : (retry c again fun answer => (next answer).bind f) = q at h
  induction h with
  | abort cause => cases hq
  | ask answer rest _ => cases hq
  | again answer hagain rest ih' =>
    cases hq
    rcases ih' ih rfl with h₁ | ⟨a, t₁, t₂, rfl, h₁, h₂⟩
    · exact .inl (.again answer hagain h₁)
    · exact .inr ⟨a, _, t₂, rfl, .again answer hagain h₁, h₂⟩
  | settled answer hagain rest _ =>
    cases hq
    rcases ih answer _ rest with h₁ | ⟨a, t₁, t₂, rfl, h₁, h₂⟩
    · exact .inl (.settled answer hagain h₁)
    · exact .inr ⟨a, _, t₂, rfl, .settled answer hagain h₁, h₂⟩

private theorem aborts_bind_aux (p : Prog α) (f : α → Prog β) (cause : Panic) :
    ∀ trace : List Exchange, (p.bind f).Aborts trace cause → p.Aborts trace cause ∨
      ∃ a t₁ t₂, trace = t₁ ++ t₂ ∧ p.Runs t₁ a ∧ (f a).Aborts t₂ cause := by
  induction p with
  | done a =>
    intro trace h
    exact .inr ⟨a, [], trace, rfl, .done a, h⟩
  | abort cause' =>
    intro trace h
    cases h
    exact .inl (.abort _)
  | ask c next ih =>
    intro trace h
    obtain ⟨answer, rest, rfl, hrest⟩ := aborts_ask_iff.1 h
    rcases ih answer rest hrest with h₁ | ⟨a, t₁, t₂, rfl, h₁, h₂⟩
    · exact .inl (.ask answer h₁)
    · exact .inr ⟨a, _, t₂, rfl, .ask answer h₁, h₂⟩
  | retry c again next ih =>
    intro trace h
    exact aborts_retry_bind_aux ih h

/-- A sequence stops in its first part, or in its second part after a run of
the first. -/
theorem aborts_bind_iff {p : Prog α} {f : α → Prog β} {trace : List Exchange} {cause : Panic} :
    (p >>= f).Aborts trace cause ↔ p.Aborts trace cause ∨
      ∃ a t₁ t₂, trace = t₁ ++ t₂ ∧ p.Runs t₁ a ∧ (f a).Aborts t₂ cause := by
  constructor
  · intro h
    exact aborts_bind_aux p f cause trace h
  · rintro (h | ⟨a, t₁, t₂, rfl, h₁, h₂⟩)
    · exact h.bind
    · exact h₁.bind_aborts h₂

end Prog

end DrmSurface
