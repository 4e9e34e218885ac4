import DrmSurface.Proofs.OneBuffer
import DrmSurface.Proofs.Resource

/-!
# What the buffers of a pool hold

The drivers of both backends give back what their buffers hold in the same
places.  They differ in what a buffer holds, which is a parameter here.

There are five groups.

* The equation for one mapping that is asked for or given back.
* `Pool.heldAll`, what all buffers of a pool hold together, and how it changes
  with the pool.
* The equation between what is held, acquired and given back, for mapping,
  unmapping and destroying one buffer.
* The same for the release of all buffers, which ends a driver.
* `Pool.balanced_of_ran`, which carries the equation along a history.
-/

namespace DrmSurface

open Prog
open Resource (perhaps)

/-! ## Mappings -/

/-- A mapping is acquired if the device grants one, and nothing otherwise. -/
theorem Device.map_balanced {source : MapSource} {length offset : Nat} :
    (Device.map source length offset).Ensures fun t outcome =>
      match outcome with
      | .ok m => Balanced 0 {.mapping m} t
      | .error _ => Balanced 0 0 t := by
  rw [Device.ensures_map_iff]
  split
  · rfl
  · split
    · rfl
    · exact ⟨fun start => rfl, fun e => rfl⟩

/-- A mapping, if there is one, is given back whatever the device answers. -/
theorem Device.unmap_balanced {mapping : Option Mapping} {notice : Errno → Notice} :
    (match mapping with
      | none => return ()
      | some m => do logFailure (← Device.unmap m) notice : Prog Unit).Ensures fun t _ =>
        Balanced (perhaps (mapping.map .mapping)) 0 t := by
  cases mapping with
  | none => exact ensures_pure_iff.2 .nil
  | some m =>
    refine ensures_bind_iff.2 (Device.ensures_unmap_iff.2 fun answer => ?_)
    refine ensures_logFailure_iff.2 ?_
    cases answer <;> rfl

namespace Pool

variable {β : Type} {held : β → Multiset Resource} {p p' : Pool β} {id : BufferId} {b b' : β}

/-! ## What is held -/

/-- What the buffers of a pool hold. -/
def heldAll (held : β → Multiset Resource) (p : Pool β) : Multiset Resource :=
  (p.buffers.values.map held).sum

theorem heldAll_add (fresh : p.get? p.nextId = none) :
    (p.add b).heldAll held = p.heldAll held + held b := by
  have hperm : (p.add b).buffers.values.Perm (b :: p.buffers.values) :=
    SortedMap.values_insert_perm fresh b
  rw [heldAll, (hperm.map held).sum_eq, List.map_cons, List.sum_cons, add_comm, heldAll]

theorem heldAll_erase (found : p.get? id = some b) :
    p.heldAll held = (p.erase id).heldAll held + held b := by
  have hperm : p.buffers.values.Perm (b :: (p.erase id).buffers.values) :=
    SortedMap.values_perm_erase found
  rw [heldAll, (hperm.map held).sum_eq, List.map_cons, List.sum_cons, add_comm, heldAll]

theorem heldAll_set (found : p.get? id = some b) :
    (p.set id b').heldAll held + held b = p.heldAll held + held b' := by
  -- Both pools are the same without the buffer.
  have herase : (p.set id b').erase id = p.erase id := by
    simp only [Pool.erase, Pool.set, SortedMap.erase_insert]
  have hset : (p.set id b').heldAll held = (p.erase id).heldAll held + held b' := by
    have hfound : (p.set id b').get? id = some b' := by simp
    rw [heldAll_erase hfound, herase]
  rw [hset, heldAll_erase found]
  abel

/-- What a buffer gains, its pool gains. -/
theorem heldAll_of_gain {r : Multiset Resource} (found : p.get? id = some b)
    (gain : held b' = held b + r) : (p.set id b').heldAll held = p.heldAll held + r := by
  refine add_right_cancel (b := held b) ((heldAll_set found).trans ?_)
  rw [gain]
  abel

/-- What a buffer loses, its pool loses. -/
theorem heldAll_of_loss {r : Multiset Resource} (found : p.get? id = some b)
    (loss : held b = held b' + r) : p.heldAll held = (p.set id b').heldAll held + r := by
  refine add_right_cancel (b := held b') ((heldAll_set found).symm.trans ?_)
  rw [loss]
  abel

theorem Released.heldAll_eq {t : List Exchange} (h : Released p t p') :
    p'.heldAll held = p.heldAll held := by
  rcases h with ⟨rfl, -⟩ | ⟨rfl, -⟩ <;> rfl

/-! ## Operations on one buffer -/

section Unmap

variable {mapping? : β → Option Mapping} {unmapped : β → β} {notice : Errno → Notice}

theorem unmapWith_balanced
    (h : ∀ {b m}, mapping? b = some m → held b = held (unmapped b) + {.mapping m}) :
    (unmapWith mapping? unmapped notice p id).Ensures fun t r =>
      Balanced (p.heldAll held) (r.2.heldAll held) t := by
  unfold unmapWith
  split
  · exact ensures_pure_iff.2 .nil
  · rename_i b hget
    split
    · exact ensures_pure_iff.2 .nil
    · rename_i m hmapping
      rw [heldAll_of_loss hget (h hmapping)]
      have hunmap : ∀ answer, Balanced {.mapping m} 0 [⟨.unmap m, answer⟩] := fun answer => rfl
      refine ensures_bind_iff.2 (Device.ensures_unmap_iff.2 (forall_except_iff.2 ⟨?_, ?_⟩))
      · exact fun _ => ensures_pure_iff.2 (hunmap _).lose
      · intro e
        refine ensures_bind_iff.2 (ensures_log_iff.2 (ensures_pure_iff.2 ?_))
        exact (hunmap _).lose.trans .log

end Unmap

section Release

variable {release : Pool β → β → Prog (Pool β)} {releaseAll : Pool β → List β → Prog (Pool β)}

theorem destroyWith_balanced (hreleased : ∀ p b, (release p b).Ensures (Released p))
    (h : ∀ p b, (release p b).Ensures fun t _ => Balanced (held b) 0 t) :
    (destroyWith release p id).Ensures fun t r =>
      Balanced (p.heldAll held) (r.2.heldAll held) t := by
  unfold destroyWith
  split
  · exact ensures_pure_iff.2 .nil
  · rename_i b hget
    refine ensures_bind_iff.2 fun t p' run => ensures_pure_iff.2 ?_
    show Balanced (p.heldAll held) (p'.heldAll held) (t ++ [])
    rw [heldAll_erase hget, (hreleased _ b t p' run).heldAll_eq, List.append_nil]
    exact (h _ b t p' run).lose

/-! ## Release of all buffers -/

namespace Releases

theorem releaseAll_balanced (hr : Releases release releaseAll)
    (h : ∀ p b, (release p b).Ensures fun t _ => Balanced (held b) 0 t) (p : Pool β)
    (bs : List β) : (releaseAll p bs).Ensures fun t _ => Balanced (bs.map held).sum 0 t := by
  induction bs generalizing p with
  | nil =>
    rw [hr.nil]
    exact ensures_pure_iff.2 .nil
  | cons b bs ih =>
    rw [hr.cons, ensures_bind_iff]
    exact (h p b).mono fun t p' hfirst => (ih p').mono fun t' _ hrest => hfirst.add hrest

/-- A driver that ends gives back all that its buffers hold. -/
theorem balanced_of_teardown (hr : Releases release releaseAll)
    (h : ∀ p b, (release p b).Ensures fun t _ => Balanced (held b) 0 t) (p : Pool β)
    {c : Prop} [Decidable c] {n : Notice} :
    (do
      if c then log n
      let _ ← releaseAll p.emptied p.buffers.values
      return () : Prog Unit).Ensures fun t _ => Balanced (p.heldAll held) 0 t := by
  refine ensures_reported ((hr.releaseAll_balanced h _ _).mono fun t _ hbalanced => ?_)
  have hlog : Balanced 0 0 [⟨.log n, ()⟩] := rfl
  exact ⟨hbalanced, hlog.keep.trans hbalanced⟩

end Releases

end Release

/-! ## Histories -/

/-- What a history has acquired is held or was given back.  Operations that
give out an id are taken to find the next id free. -/
theorem balanced_of_ran {table : Table (Pool β)} {New : BufferId → β → Prop}
    {Altered : β → β → Prop} {gain : Episode → Multiset Resource} {history : List Episode}
    (hchange : ∀ {p e p'}, Step table p e p' → Change New Altered p e.created? p')
    (hstep : ∀ {p e p'}, Step table p e p' →
      (e.created?.isSome → p.get? p.nextId = none) →
        p.heldAll held + gain e = p'.heldAll held + released e.trace)
    (run : Ran table ∅ history p) (few : creations history ≤ BufferId.count) :
    (history.map gain).sum = p.heldAll held + released (callsOf history) := by
  induction run with
  | start => rfl
  | @step history s s' e before now ih =>
    simp only [creations_append, creations_cons, creations_nil, Nat.zero_add] at few
    have hfew : creations history ≤ BufferId.count := by omega
    have fresh : e.created?.isSome → s.get? s.nextId = none := by
      intro hcreated
      rw [if_pos hcreated] at few
      exact (numbered_of_ran hchange before hfew).fresh few
    calc ((history ++ [e]).map gain).sum
        = s.heldAll held + released (callsOf history) + gain e := by
          rw [List.map_append, List.sum_append, ih hfew]
          simp
      _ = s.heldAll held + gain e + released (callsOf history) := by abel
      _ = s'.heldAll held + released (callsOf (history ++ [e])) := by
          rw [hstep now fresh, callsOf_append, released_append, callsOf_singleton]
          abel

end Pool

end DrmSurface
