import DrmSurface.Driver.Operation
import Mathlib.Data.List.Basic

/-!
# Histories of a driver

A driver is a state and a table that says how each operation runs on it.
This module says what it means that operations have been performed one after
another, whatever the device and the engine have answered.

There are four groups.

* Kinds of operations, and `Episode`, one finished operation: its arguments,
  the calls that it made with their answers, and its result.
* `Ran`, the histories of a table: lists of episodes, oldest first, each of
  which starts in the state that the one before has left.  A history leads to
  one state only (`Ran.unique`), `Ran.split` takes it apart at one episode, and
  `callsOf_split` finds the episode of a call.
* What a history has given out: buffer ids, counted by `creations`, and
  prepared blits.  `createdIds` and `destroyedIds` list the ids.  `Issued` is
  the promise of a caller who runs only blits that the driver has prepared
  for it.
* Sample histories.  `playAll` performs operations in a world that answers
  each call by a fixed rule, and `ran_of_playAll` says that this is a history.
-/

namespace DrmSurface

open Prog (Exchange)

/-! ## Operations and episodes -/

/-- An operation that is done by the engine. -/
def Operation.isAccelerated : Operation → Bool
  | .fillRect .. | .checkBlit .. | .blit _ | .copy .. | .rotate .. | .flip .. => true
  | _ => false

/-- An operation that may give out an id. -/
def Operation.isCreation : Operation → Bool
  | .create .. | .importHandle .. | .importName .. | .importPrime .. => true
  | _ => false

/-- The surface that a creation asks for. -/
def Operation.desc? : Operation → Option SurfaceDesc
  | .create desc _ | .importHandle _ _ desc _ | .importName _ desc _ | .importPrime _ _ desc _ =>
    some desc
  | _ => none

/-- An operation that reads the buffers and changes none. -/
def Operation.observes : Operation → Bool
  | .flush | .exportPrime _ | .fillRect .. | .checkBlit .. | .blit _ | .copy .. | .rotate ..
  | .flip .. => true
  | _ => false

/-- How each operation runs on the state of a driver. -/
abbrev Table (σ : Type) : Type :=
  σ → (op : Operation) → Prog (Except DriverError op.Result × σ)

/-- An operation that has been performed. -/
structure Episode where
  op : Operation
  /-- The calls that were made, with their answers. -/
  trace : List Exchange
  result : Except DriverError op.Result

variable {σ : Type} {table : Table σ}

/-- The episode `e` can take place in the state `s` and leaves `s'`. -/
def Step (table : Table σ) (s : σ) (e : Episode) (s' : σ) : Prop :=
  (table s e.op).Runs e.trace (e.result, s')

/-! ## Histories -/

/-- The episodes of a history, performed one after another from `s₀` on,
have led to a state. -/
inductive Ran (table : Table σ) (s₀ : σ) : List Episode → σ → Prop where
  | start : Ran table s₀ [] s₀
  | step {history : List Episode} {s s' : σ} {e : Episode}
      (before : Ran table s₀ history s) (now : Step table s e s') :
      Ran table s₀ (history ++ [e]) s'

theorem Ran.eq_of_nil {s₀ s : σ} (run : Ran table s₀ [] s) : s = s₀ := by
  generalize hnil : ([] : List Episode) = history at run
  cases run with
  | start => rfl
  | step _ _ => simp at hnil

/-- The last episode of a history. -/
theorem Ran.last {s₀ s' : σ} {history : List Episode} {e : Episode}
    (run : Ran table s₀ (history ++ [e]) s') :
    ∃ s, Ran table s₀ history s ∧ Step table s e s' := by
  generalize hall : history ++ [e] = all at run
  cases run with
  | start => simp at hall
  | @step before s _ e' hbefore now =>
    obtain ⟨rfl, hlast⟩ := List.append_inj' hall rfl
    obtain rfl : e = e' := by simpa using hlast
    exact ⟨s, hbefore, now⟩

/-- The answers to a program decide its result. -/
theorem Prog.Runs.unique {α : Type} {p : Prog α} {trace : List Exchange} {a b : α}
    (h₁ : p.Runs trace a) (h₂ : p.Runs trace b) : a = b := by
  induction h₁ with
  | done a => exact (runs_done_iff.1 h₂).2.symm
  | ask answer _ ih =>
    cases h₂ with
    | ask _ rest => exact ih rest
  | again answer hagain _ ih =>
    cases h₂ with
    | again _ _ rest => exact ih rest
    | settled _ hsettled _ => cases hagain.symm.trans hsettled
  | settled answer hsettled _ ih =>
    cases h₂ with
    | again _ hagain _ => cases hsettled.symm.trans hagain
    | settled _ _ rest => exact ih rest

/-- A history decides the state that it leads to. -/
theorem Ran.unique {s₀ s s' : σ} {history : List Episode} (run : Ran table s₀ history s)
    (run' : Ran table s₀ history s') : s = s' := by
  induction run generalizing s' with
  | start => exact run'.eq_of_nil.symm
  | step _ now ih =>
    obtain ⟨s₁, hbefore, hnow⟩ := run'.last
    obtain rfl := ih hbefore
    exact (Prod.mk.inj (now.unique hnow)).2

/-- Every episode of a history is a step from a state that the episodes
before it have led to, and the episodes after it go on from there. -/
theorem Ran.split {s₀ s : σ} {history : List Episode} (run : Ran table s₀ history s) :
    ∀ {before after : List Episode} {e : Episode}, history = before ++ e :: after →
      ∃ s₁ s₂, Ran table s₀ before s₁ ∧ Step table s₁ e s₂ ∧ Ran table s₂ after s := by
  induction run with
  | start =>
    intro before after e h
    simp at h
  | @step history s s' last hbefore now ih =>
    intro before after e h
    rcases List.eq_nil_or_concat' after with rfl | ⟨after, x, rfl⟩
    · obtain ⟨rfl, hlast⟩ := List.append_inj' h rfl
      obtain rfl : last = e := by simpa using hlast
      exact ⟨s, s', hbefore, now, .start⟩
    · rw [← List.cons_append, ← List.append_assoc] at h
      obtain ⟨hhistory, hlast⟩ := List.append_inj' h rfl
      obtain rfl : last = x := by simpa using hlast
      obtain ⟨s₁, s₂, hran, hstep, hafter⟩ := ih hhistory
      exact ⟨s₁, s₂, hran, hstep, hafter.step now⟩

/-- The first episode of a history. -/
theorem Ran.head {s₀ s' : σ} {rest : List Episode} {e : Episode}
    (run : Ran table s₀ (e :: rest) s') : ∃ s, Step table s₀ e s ∧ Ran table s rest s' := by
  obtain ⟨s₁, s, hnil, now, hafter⟩ := run.split (List.nil_append (e :: rest)).symm
  obtain rfl := hnil.eq_of_nil
  exact ⟨s, now, hafter⟩

/-- The calls of a history. -/
def callsOf (history : List Episode) : List Exchange := history.flatMap (·.trace)

@[simp] theorem callsOf_nil : callsOf [] = [] := rfl

@[simp] theorem callsOf_cons (e : Episode) (h : List Episode) :
    callsOf (e :: h) = e.trace ++ callsOf h := rfl

@[simp] theorem callsOf_append (h₁ h₂ : List Episode) :
    callsOf (h₁ ++ h₂) = callsOf h₁ ++ callsOf h₂ := by
  simp [callsOf]

@[simp] theorem callsOf_singleton (e : Episode) : callsOf [e] = e.trace := by
  simp [callsOf]

/-- An element of two lists put together is in the first or in the second. -/
theorem append_eq_append_cons {α : Type} {l₁ l₂ past future : List α} {x : α}
    (h : l₁ ++ l₂ = past ++ x :: future) :
    (∃ rest, l₁ = past ++ x :: rest) ∨ ∃ past', past = l₁ ++ past' ∧ l₂ = past' ++ x :: future := by
  rcases List.append_eq_append_iff.1 h with ⟨past', hpast, hl₂⟩ | ⟨rest, hl₁, hx⟩
  · exact .inr ⟨past', hpast, hl₂⟩
  · cases rest with
    | nil =>
      rw [List.append_nil] at hl₁
      exact .inr ⟨[], by rw [hl₁, List.append_nil], hx.symm⟩
    | cons y rest =>
      obtain ⟨rfl, -⟩ := List.cons.inj hx
      exact .inl ⟨rest, hl₁⟩

/-- A call of a history was made in one of its episodes. -/
theorem callsOf_split {history : List Episode} {past future : List Exchange} {x : Exchange}
    (h : callsOf history = past ++ x :: future) :
    ∃ before e after within rest, history = before ++ e :: after ∧
      e.trace = within ++ x :: rest ∧ past = callsOf before ++ within := by
  induction history generalizing past with
  | nil => simp at h
  | cons e history ih =>
    rw [callsOf_cons] at h
    rcases append_eq_append_cons h with ⟨rest, htrace⟩ | ⟨past', rfl, hrest⟩
    · exact ⟨[], e, history, past, rest, rfl, htrace, rfl⟩
    · obtain ⟨before, e', after, within, rest, rfl, htrace, rfl⟩ := ih hrest
      refine ⟨e :: before, e', after, within, rest, rfl, htrace, ?_⟩
      rw [callsOf_cons, List.append_assoc]

/-! ## What a history has given out -/

namespace Episode

/-- The id that the episode has given to a new buffer. -/
def created? : Episode → Option BufferId
  | ⟨.create .., _, .ok id⟩ => some id
  | ⟨.importHandle .., _, .ok id⟩ => some id
  | ⟨.importName .., _, .ok id⟩ => some id
  | ⟨.importPrime .., _, .ok id⟩ => some id
  | _ => none

/-- The id of the buffer that the episode has destroyed. -/
def destroyed? : Episode → Option BufferId
  | ⟨.destroy id, _, .ok _⟩ => some id
  | _ => none

/-- The blit that the episode has prepared. -/
def prepared? : Episode → Option PreparedBlit
  | ⟨.checkBlit .., _, .ok prepared⟩ => some prepared
  | _ => none

end Episode

/-- The number of buffers that a history has created. -/
def creations (history : List Episode) : Nat := history.countP (·.created?.isSome)

@[simp] theorem creations_nil : creations [] = 0 := rfl

@[simp] theorem creations_append (h₁ h₂ : List Episode) :
    creations (h₁ ++ h₂) = creations h₁ + creations h₂ :=
  List.countP_append

@[simp] theorem creations_cons (e : Episode) (h : List Episode) :
    creations (e :: h) = creations h + if e.created?.isSome then 1 else 0 := by
  simp [creations, List.countP_cons]

/-- The ids that a history has given out, oldest first. -/
def createdIds (history : List Episode) : List BufferId := history.filterMap (·.created?)

/-- The ids of the buffers that a history has destroyed. -/
def destroyedIds (history : List Episode) : List BufferId := history.filterMap (·.destroyed?)

@[simp] theorem createdIds_nil : createdIds [] = [] := rfl

@[simp] theorem destroyedIds_nil : destroyedIds [] = [] := rfl

@[simp] theorem createdIds_append (h₁ h₂ : List Episode) :
    createdIds (h₁ ++ h₂) = createdIds h₁ ++ createdIds h₂ :=
  List.filterMap_append

@[simp] theorem destroyedIds_append (h₁ h₂ : List Episode) :
    destroyedIds (h₁ ++ h₂) = destroyedIds h₁ ++ destroyedIds h₂ :=
  List.filterMap_append

@[simp] theorem createdIds_singleton (e : Episode) : createdIds [e] = e.created?.toList := by
  cases h : e.created? <;> simp [createdIds, h]

@[simp] theorem destroyedIds_singleton (e : Episode) :
    destroyedIds [e] = e.destroyed?.toList := by
  cases h : e.destroyed? <;> simp [destroyedIds, h]

/-- A caller runs only blits that were prepared for it in the same history. -/
def Issued (history : List Episode) : Prop :=
  ∀ before e after prepared, history = before ++ e :: after → e.op = .blit prepared →
    ∃ earlier ∈ before, earlier.prepared? = some prepared

theorem issued_nil : Issued [] := by
  intro before e after prepared h
  simp at h

theorem Issued.concat {history : List Episode} {e : Episode} (issued : Issued history)
    (h : ∀ prepared, e.op = .blit prepared →
      ∃ earlier ∈ history, earlier.prepared? = some prepared) : Issued (history ++ [e]) := by
  intro before e' after prepared heq hop
  rcases List.eq_nil_or_concat' after with rfl | ⟨after, y, rfl⟩
  · obtain ⟨rfl, hlast⟩ := List.append_inj' heq rfl
    obtain rfl : e = e' := by simpa using hlast
    exact h prepared hop
  · rw [← List.cons_append, ← List.append_assoc] at heq
    exact issued before e' after prepared (List.append_inj' heq rfl).1 hop

/-! ## Sample histories -/

namespace Prog

variable {α : Type}

/-- The run of a program in a world that answers each call by a fixed rule.
There is none if the program stops, or if the rule has a call repeated for
ever. -/
def play (world : (c : Call) → c.Answer) : Prog α → Option (List Exchange × α)
  | done a => some ([], a)
  | abort _ => none
  | ask c next =>
    ((next (world c)).play world).map fun (trace, a) => (⟨c, world c⟩ :: trace, a)
  | retry c again next =>
    if again (world c) then none
    else ((next (world c)).play world).map fun (trace, a) => (⟨c, world c⟩ :: trace, a)

theorem runs_of_play {world : (c : Call) → c.Answer} {p : Prog α} {trace : List Exchange}
    {a : α} (h : p.play world = some (trace, a)) : p.Runs trace a := by
  induction p generalizing trace with
  | done b =>
    cases h
    exact .done _
  | abort cause => cases h
  | ask c next ih =>
    obtain ⟨⟨rest, b⟩, hrest, heq⟩ := Option.map_eq_some_iff.1 h
    cases heq
    exact .ask _ (ih _ hrest)
  | retry c again next ih =>
    rw [play] at h
    split at h
    · cases h
    · rename_i hagain
      obtain ⟨⟨rest, b⟩, hrest, heq⟩ := Option.map_eq_some_iff.1 h
      cases heq
      exact .settled _ (by simpa using hagain) (ih _ hrest)

end Prog

theorem Prog.answer_of_play {α : Type} {world : (c : Call) → c.Answer} {p : Prog α}
    {trace : List Exchange} {a : α} (h : p.play world = some (trace, a)) :
    ∀ x ∈ trace, x.answer = world x.call := by
  induction p generalizing trace with
  | done b =>
    cases h
    simp
  | abort cause => cases h
  | ask c next ih =>
    obtain ⟨⟨rest, b⟩, hrest, heq⟩ := Option.map_eq_some_iff.1 h
    cases heq
    simpa using ih _ hrest
  | retry c again next ih =>
    rw [play] at h
    split at h
    · cases h
    · obtain ⟨⟨rest, b⟩, hrest, heq⟩ := Option.map_eq_some_iff.1 h
      cases heq
      simpa using ih _ hrest

/-- The history of operations in a world that answers each call by a fixed
rule, with the state that it leads to. -/
def playAll (table : Table σ) (world : (c : Call) → c.Answer) (s : σ) :
    List Operation → Option (List Episode × σ)
  | [] => some ([], s)
  | op :: ops => do
    let (trace, result, s') ← (table s op).play world
    let (history, s'') ← playAll table world s' ops
    return (⟨op, trace, result⟩ :: history, s'')

/-- A world that grants every call. -/
def granted : (c : Call) → c.Answer
  | .openDevice _ => .ok ()
  | .ioctl .versionLength => .ok 0
  | .ioctl (.versionName capacity) => .ok ⟨Vector.replicate capacity 0, 0⟩
  | .ioctl (.gemClose _) => .ok ()
  | .ioctl (.gemOpen name) => .ok ⟨name, UInt32.size⟩
  | .ioctl (.primeHandleToFd handle _) => .ok handle.toNat
  | .ioctl (.primeFdToHandle fd _) => .ok (UInt32.ofNat fd.number)
  | .ioctl (.rockchipGemCreate size _) => .ok (UInt32.ofNat size)
  | .ioctl (.rockchipGemMapOffset _) => .ok 0
  | .ioctl (.vmwAllocDmabuf size _) => .ok ⟨size, 0, 0⟩
  | .ioctl (.vmwUnrefDmabuf _) => .ok ()
  | .map .. => .ok ⟨4096⟩
  | .unmap _ => .ok ()
  | .closePrime _ | .close _ | .fill .. | .log _ | .print _ => ()
  | .size _ => .ok 4096
  | .duplicate fd => .ok ⟨fd.number + 1⟩
  | .engine .describe => none
  | .engine (.importBuffer fd ..) => .ok ⟨UInt32.ofNat fd.number⟩
  | .engine (.release _) | .engine (.check ..) | .engine (.fill ..) | .engine (.process ..) =>
    .ok ()

/-- A world that grants every call, but does not take mappings back. -/
def keepsMappings : (c : Call) → c.Answer
  | .unmap _ => .error .invalidArgument
  | c => granted c

/-- A device that grants every call but one for a prime descriptor. -/
def withholdsDescriptors : (c : Call) → c.Answer
  | .ioctl (.primeHandleToFd ..) => .error ⟨24⟩
  | c => granted c

/-- A history may go on with another one. -/
theorem Ran.append {s₀ s s' : σ} {h₁ h₂ : List Episode} (run₁ : Ran table s₀ h₁ s)
    (run₂ : Ran table s h₂ s') : Ran table s₀ (h₁ ++ h₂) s' := by
  induction run₂ with
  | start => simpa using run₁
  | step _ now ih =>
    rw [← List.append_assoc]
    exact .step ih now

theorem ran_of_playAll {world : (c : Call) → c.Answer} {s s' : σ} {ops : List Operation}
    {history : List Episode} (h : playAll table world s ops = some (history, s')) :
    Ran table s history s' := by
  induction ops generalizing s history with
  | nil =>
    cases h
    exact .start
  | cons op ops ih =>
    simp only [playAll, Option.bind_eq_bind, Option.bind_eq_some_iff, Prod.exists] at h
    obtain ⟨trace, result, s₁, hop, rest, s₂, hrest, heq⟩ := h
    cases heq
    exact Ran.append (Ran.step (e := ⟨op, trace, result⟩) .start (Prog.runs_of_play hop)) (ih hrest)

theorem answer_of_playAll {world : (c : Call) → c.Answer} {s s' : σ} {ops : List Operation}
    {history : List Episode} (h : playAll table world s ops = some (history, s')) :
    ∀ x ∈ callsOf history, x.answer = world x.call := by
  induction ops generalizing s history with
  | nil =>
    cases h
    simp
  | cons op ops ih =>
    simp only [playAll, Option.bind_eq_bind, Option.bind_eq_some_iff, Prod.exists] at h
    obtain ⟨trace, result, s₁, hop, rest, s₂, hrest, heq⟩ := h
    cases heq
    intro x hx
    rcases List.mem_append.1 hx with hx | hx
    · exact Prog.answer_of_play hop x hx
    · exact ih hrest x hx

end DrmSurface
