import DrmSurface.Proofs.Effect
import DrmSurface.Proofs.Exact
import DrmSurface.Proofs.Refusal

/-!
# Operations on one buffer

The drivers of both backends map, unmap and destroy a buffer in the same way.
They differ in what a buffer keeps about its mapping and in how a buffer is
released.

There are three groups.

* Mapping, which either changes one buffer or fails.
* `Pool.unmapWith`, of which the unmapping of either driver is a case.
* `Pool.destroyWith`, of which the destruction of either driver is a case.
-/

namespace DrmSurface.Pool

open Prog
open Attempt (FoundEarly foundEarly_nil foundEarly_ok foundEarly_of_device)

variable {β : Type} {New : BufferId → β → Prop} {Mapped Unmapped : β → Mapping → β → Prop}
  {p : Pool β} {id : BufferId}

/-! ## Mapping -/

theorem map_effect {m : Attempt (Address × Pool β)}
    (h : m.Yields fun r => ∃ b b' place, p.get? id = some b ∧ Mapped b place b' ∧
      r = (place.start, p.set id b')) :
    (Attempt.commit p m).Ensures fun t r =>
      Effect New Mapped Unmapped p ⟨.map id, t, r.1⟩ r.2 := by
  refine h.commit.mono fun t r h => ?_
  rcases h with ⟨e, rfl⟩ | ⟨a, p', rfl, b, b', place, hb, hmapped, heq⟩
  · exact .failed fun _ _ h => by cases h
  · cases heq
    exact .mapped hb hmapped

/-! ## Unmapping -/

/-- The buffer loses its mapping, and the device is asked to take it back. -/
def unmapWith (mapping? : β → Option Mapping) (unmapped : β → β) (notice : Errno → Notice)
    (p : Pool β) (id : BufferId) : Prog (Except DriverError Unit × Pool β) :=
  match p.get? id with
  | none => return (.error (.noSuchBuffer id), p)
  | some b =>
    match mapping? b with
    | none => return (.error (.notMapped id), p)
    | some m => do
      let p := p.set id (unmapped b)
      match ← Device.unmap m with
      | .ok _ => return (.ok (), p)
      | .error e =>
        Prog.log (notice e)
        return (.error (.kernel .unmap e), p)

section Unmap

variable {mapping? : β → Option Mapping} {unmapped : β → β} {notice : Errno → Notice}

theorem unmapWith_effect (h : ∀ {b m}, mapping? b = some m → Unmapped b m (unmapped b)) :
    (unmapWith mapping? unmapped notice p id).Ensures fun t r =>
      Effect New Mapped Unmapped p ⟨.unmap id, t, r.1⟩ r.2 := by
  unfold unmapWith
  split
  · exact ensures_pure_iff.2 (.failed fun _ _ _ h => by cases h)
  · rename_i b hb
    split
    · exact ensures_pure_iff.2 (.failed fun _ _ _ h => by cases h)
    · rename_i m hm
      refine ensures_bind_iff.2 (Device.ensures_unmap_iff.2 (forall_except_iff.2 ⟨?_, ?_⟩))
      · exact fun _ => ensures_pure_iff.2 (.unmapped hb (h hm))
      · intro e
        refine ensures_bind_iff.2 (ensures_log_iff.2 (ensures_pure_iff.2 ?_))
        exact .torn hb (h hm) (by simp)

theorem unmapWith_foundEarly :
    (unmapWith mapping? unmapped notice p id).Ensures fun t r => FoundEarly t r.1 := by
  unfold unmapWith
  split
  · exact ensures_pure_iff.2 foundEarly_nil
  · split
    · exact ensures_pure_iff.2 foundEarly_nil
    · refine ensures_bind_iff.2 (Device.ensures_unmap_iff.2 (forall_except_iff.2 ⟨?_, ?_⟩))
      · exact fun _ => ensures_pure_iff.2 foundEarly_ok
      · intro e
        exact ensures_bind_iff.2 (ensures_log_iff.2 (ensures_pure_iff.2 (foundEarly_of_device rfl)))

theorem unmapWith_asks {ok : Call → Prop} (hunmap : ∀ m, ok (.unmap m)) (hlog : ∀ n, ok (.log n)) :
    Asks ok (unmapWith mapping? unmapped notice p id) := by
  unfold unmapWith
  split
  · exact asks_pure
  · split
    · exact asks_pure
    · refine Asks.bind (asks_call (hunmap _)) fun answer => ?_
      cases answer with
      | ok _ => exact asks_pure
      | error e => exact Asks.bind (asks_log hlog) fun _ => asks_pure

theorem unmapWith_safe : (unmapWith mapping? unmapped notice p id).Safe := by
  unfold unmapWith
  split
  · exact safe_pure
  · split
    · exact safe_pure
    · refine safe_call.bind fun outcome => ?_
      cases outcome with
      | ok _ => exact safe_pure
      | error e => exact safe_call.bind fun _ => safe_pure

/-- A buffer without a mapping is refused, and nothing else happens. -/
theorem unmapWith_of_none {b : β} (found : p.get? id = some b) (h : mapping? b = none) :
    unmapWith mapping? unmapped notice p id = pure (.error (.notMapped id), p) := by
  simp only [unmapWith, found, h]

/-- A buffer with a mapping loses it, whatever the device answers. -/
theorem unmapWith_of_some {b : β} {m : Mapping} (found : p.get? id = some b)
    (h : mapping? b = some m) :
    (unmapWith mapping? unmapped notice p id).Ensures fun t r =>
      r.2 = p.set id (unmapped b) ∧ deviceCalls t = [.unmap m] ∧
        (r.1 = .ok () ∨ ∃ cause, r.1 = .error (.kernel .unmap cause)) := by
  simp only [unmapWith, found, h]
  refine ensures_bind_iff.2 (Device.ensures_unmap_iff.2 (forall_except_iff.2 ⟨?_, ?_⟩))
  · exact fun _ => ensures_pure_iff.2 ⟨rfl, rfl, .inl rfl⟩
  · exact fun e => ensures_bind_iff.2 (ensures_log_iff.2 (ensures_pure_iff.2
      ⟨rfl, rfl, .inr ⟨e, rfl⟩⟩))

/-- No buffer is mapped after an attempt to unmap it. -/
theorem unmapWith_mapping (h : ∀ b, mapping? (unmapped b) = none) :
    (unmapWith mapping? unmapped notice p id).Ensures fun _ r =>
      ∀ b, r.2.get? id = some b → mapping? b = none := by
  cases hget : p.get? id with
  | none =>
    simp only [unmapWith, hget]
    refine ensures_pure_iff.2 fun b hb => ?_
    rw [hget] at hb
    cases hb
  | some b₀ =>
    cases hmapping : mapping? b₀ with
    | none =>
      rw [unmapWith_of_none hget hmapping]
      refine ensures_pure_iff.2 fun b hb => ?_
      cases hget.symm.trans hb
      exact hmapping
    | some m =>
      refine (unmapWith_of_some hget hmapping).mono fun t r hr b hb => ?_
      rw [hr.1, get?_set, if_pos rfl] at hb
      cases hb
      exact h b₀

end Unmap

/-! ## Destruction -/

/-- The buffer leaves the pool and is released. -/
def destroyWith (release : Pool β → β → Prog (Pool β)) (p : Pool β) (id : BufferId) :
    Prog (Except DriverError Unit × Pool β) :=
  match p.get? id with
  | none => return (.error (.noSuchBuffer id), p)
  | some b => do
    let p ← release (p.erase id) b
    return (.ok (), p)

section Destroy

variable {release : Pool β → β → Prog (Pool β)}

theorem destroyWith_effect (h : ∀ p b, (release p b).Ensures (Released p)) :
    (destroyWith release p id).Ensures fun t r =>
      Effect New Mapped Unmapped p ⟨.destroy id, t, r.1⟩ r.2 := by
  unfold destroyWith
  split
  · exact ensures_pure_iff.2 (.failed fun _ _ h => by cases h)
  · rename_i b hb
    refine ensures_bind_iff.2 ((h _ b).mono fun t p' hreleased => ensures_pure_iff.2 ?_)
    rw [List.append_nil]
    exact .destroyed hb hreleased

theorem destroyWith_asks {ok : Call → Prop} (h : ∀ p b, Asks ok (release p b)) :
    Asks ok (destroyWith release p id) := by
  unfold destroyWith
  split
  · exact asks_pure
  · exact (h _ _).bind fun _ => asks_pure

theorem destroyWith_safe (h : ∀ p b, (release p b).Safe) : (destroyWith release p id).Safe := by
  unfold destroyWith
  split
  · exact safe_pure
  · exact (h _ _).bind fun _ => safe_pure

/-- The destruction of a buffer that is there is its release, and it succeeds. -/
theorem destroyWith_of_found {b : β} (found : p.get? id = some b)
    {P : List Exchange → Prop} (h : (release (p.erase id) b).Ensures fun t _ => P t) :
    (destroyWith release p id).Ensures fun t r => r.1 = .ok () ∧ P t := by
  simp only [destroyWith, found]
  refine ensures_bind_iff.2 (h.mono fun t p' ht => ensures_pure_iff.2 ⟨rfl, ?_⟩)
  rwa [List.append_nil]

theorem destroyWith_foundEarly :
    (destroyWith release p id).Ensures fun t r => FoundEarly t r.1 := by
  unfold destroyWith
  split
  · exact ensures_pure_iff.2 foundEarly_nil
  · exact ensures_bind_iff.2 fun t p' _ => ensures_pure_iff.2 foundEarly_ok

end Destroy

end DrmSurface.Pool
