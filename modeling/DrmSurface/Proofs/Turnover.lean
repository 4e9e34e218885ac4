import DrmSurface.Proofs.Pool

/-!
# Which ids a pool holds

The ids of a pool are those that its history has given out and not yet
destroyed, in the order in which they were given out.  This holds as long as
there are ids left.

There are three groups.

* The keys of a sorted map after binding and removing a key, and the ids of a
  pool after a change.
* `Pool.Turnover`, which says of a change of a pool which ids come in and
  which go.  It is what one operation of a driver does to its pool.
* `Pool.Recorded`, which ties a pool to a history.  It is kept by every
  turnover, and `recorded_of_ran` carries it along a history.
-/

namespace DrmSurface

/-! ## Keys and ids -/

namespace SortedMap

variable {κ ν : Type} [Ord κ]

/-- A key above all others comes last. -/
theorem keys_insert_of_forall_lt [Std.TransOrd κ] [Std.LawfulEqOrd κ] {m : SortedMap κ ν} {k : κ}
    (h : ∀ j ∈ m.keys, compare j k = .lt) (v : ν) : (m.insert k v).keys = m.keys ++ [k] := by
  simp only [keys, insert] at h ⊢
  generalize m.entries = entries at h ⊢
  induction entries with
  | nil => rfl
  | cons e es ih =>
    have hlt : compare e.1 k = .lt := h e.1 (by simp)
    have hgt : compare k e.1 = .gt := Std.OrientedCmp.gt_of_lt hlt
    have hes := ih fun j hj => h j (List.mem_cons_of_mem _ hj)
    rw [insertEntry, hgt]
    simp only [List.map_cons, List.cons_append, hes]

/-- Binding a bound key adds no key. -/
theorem keys_insert_of_get? [Std.TransOrd κ] [Std.LawfulEqOrd κ] {m : SortedMap κ ν} {k : κ}
    {v₀ : ν} (h : m.get? k = some v₀) (v : ν) : (m.insert k v).keys = m.keys := by
  have hascending := m.ascending
  simp only [keys, insert, get?] at h ⊢
  generalize m.entries = entries at h hascending ⊢
  induction entries with
  | nil => cases h
  | cons e es ih =>
    obtain ⟨hhead, htail⟩ := List.pairwise_cons.1 hascending
    rw [lookup] at h
    split at h
    · rename_i heq
      obtain rfl : k = e.1 := Std.LawfulEqCmp.eq_of_compare heq
      rw [insertEntry, heq]
      rfl
    · -- The key is bound further on, so it is above the first key.
      have hmem : k ∈ (⟨es, htail⟩ : SortedMap κ ν).keys :=
        (mem_keys_iff _ _).2 (Option.isSome_of_eq_some h)
      obtain ⟨a, ha, rfl⟩ := List.mem_map.1 hmem
      have hgt : compare a.1 e.1 = .gt := Std.OrientedCmp.gt_of_lt (hhead a ha)
      rw [insertEntry, hgt]
      simp only [List.map_cons, ih h htail]

theorem keys_erase [Std.LawfulEqOrd κ] [DecidableEq κ] (m : SortedMap κ ν) (k : κ) :
    (m.erase k).keys = m.keys.filter (· ≠ k) := by
  simp only [keys, erase, List.filter_map]
  congr 1
  apply List.filter_congr
  intro e _
  simp only [ne_eq, Std.compare_eq_iff_eq, Function.comp_apply, eq_comm (a := k)]

end SortedMap

theorem BufferId.compare_eq_lt {a b : BufferId} (h : a.value.toNat < b.value.toNat) :
    compare a b = .lt := by
  rw [compare_def, Std.compare_eq_lt]
  exact UInt32.lt_iff_toNat_lt.2 h

namespace Pool

variable {β : Type} {p p' : Pool β} {id : BufferId} {b b' : β} {n : Nat}

theorem mem_ids_iff : id ∈ p.ids ↔ (p.get? id).isSome := p.buffers.mem_keys_iff id

theorem ids_add (h : ∀ id ∈ p.ids, id.value.toNat < p.nextId.value.toNat) :
    (p.add b).ids = p.ids ++ [p.nextId] :=
  SortedMap.keys_insert_of_forall_lt (fun id hid => BufferId.compare_eq_lt (h id hid)) b

theorem ids_set (found : p.get? id = some b) : (p.set id b').ids = p.ids :=
  SortedMap.keys_insert_of_get? found b'

theorem ids_erase : (p.erase id).ids = p.ids.filter (· ≠ id) := p.buffers.keys_erase id

@[simp] theorem ids_freed : p.freed.ids = p.ids := rfl

theorem Numbered.le_of_mem_ids (h : p.Numbered n) (hid : id ∈ p.ids) : id.value.toNat ≤ n := by
  obtain ⟨b, hb⟩ := Option.isSome_iff_exists.1 (mem_ids_iff.1 hid)
  exact h.le_of_get? hb

/-! ## Turnover -/

/-- The ways in which one operation changes a pool, with the id that it gives
out and the id that it takes away. -/
inductive Turnover (New : BufferId → β → Prop) (Altered : β → β → Prop) (p : Pool β) :
    (given taken : Option BufferId) → Pool β → Prop where
  | kept : Turnover New Altered p none none p
  | added {b : β} (h : New p.nextId b) :
      Turnover New Altered p (some p.nextId) none (p.add b)
  | altered {id : BufferId} {b b' : β} (found : p.get? id = some b) (h : Altered b b') :
      Turnover New Altered p none none (p.set id b')
  | erased {id : BufferId} {b : β} (found : p.get? id = some b) :
      Turnover New Altered p none (some id) (p.erase id)
  | freed {id : BufferId} {b : β} (found : p.get? id = some b) :
      Turnover New Altered p none (some id) (p.erase id).freed

variable {New : BufferId → β → Prop} {Altered : β → β → Prop} {given taken : Option BufferId}

theorem Turnover.change (h : Turnover New Altered p given taken p') :
    Change New Altered p given p' := by
  cases h with
  | kept => exact .kept
  | added hnew => exact .added hnew
  | altered found halt => exact .altered found halt
  | erased _ => exact .erased
  | freed _ => exact .freed

theorem Turnover.mono {Altered' : β → β → Prop} (h : Turnover New Altered p given taken p')
    (himp : ∀ {b b'}, Altered b b' → Altered' b b') :
    Turnover New Altered' p given taken p' := by
  cases h with
  | kept => exact .kept
  | added hnew => exact .added hnew
  | altered found halt => exact .altered found (himp halt)
  | erased found => exact .erased found
  | freed found => exact .freed found

/-- What is taken away was there. -/
theorem Turnover.mem_of_taken (h : Turnover New Altered p given (some id) p') : id ∈ p.ids := by
  cases h with
  | erased found | freed found => exact mem_ids_iff.2 (Option.isSome_of_eq_some found)

theorem Turnover.eq_nextId_of_given (h : Turnover New Altered p (some id) taken p') :
    id = p.nextId := by
  cases h with
  | added _ => rfl

/-- The id that comes in is put at the end, and the id that goes leaves its
place. -/
theorem Turnover.ids_eq (h : Turnover New Altered p given taken p') (hp : p.Numbered n)
    (few : n + (if given.isSome then 1 else 0) ≤ BufferId.count) :
    p'.ids = (p.ids ++ given.toList).filter (· ∉ taken.toList) := by
  cases h with
  | kept => simp
  | added _ =>
    have hval := hp.value_nextId few
    have habove : ∀ id ∈ p.ids, id.value.toNat < p.nextId.value.toNat := by
      intro id hid
      have hle := hp.le_of_mem_ids hid
      omega
    simp [ids_add habove]
  | altered found _ => simp [ids_set found]
  | erased _ => simp [ids_erase]
  | freed _ => simp [ids_erase]

/-! ## Histories -/

/-- The pool after a history: the ids that were given out are the first ones
in order, and the pool holds those of them that were not destroyed. -/
structure Recorded (p : Pool β) (history : List Episode) : Prop where
  numbered : p.Numbered (creations history)
  created_eq : (createdIds history).map (·.value.toNat) = List.range' 1 (creations history)
  destroyed_le : ∀ id ∈ destroyedIds history, id.value.toNat ≤ creations history
  ids_eq : p.ids = (createdIds history).filter (· ∉ destroyedIds history)

variable {history : List Episode} {e : Episode}

theorem recorded_empty : (∅ : Pool β).Recorded [] where
  numbered := numbered_empty
  created_eq := rfl
  destroyed_le id hid := by cases hid
  ids_eq := rfl

theorem Recorded.step (h : p.Recorded history)
    (turn : Turnover New Altered p e.created? e.destroyed? p')
    (few : creations (history ++ [e]) ≤ BufferId.count) : p'.Recorded (history ++ [e]) := by
  simp only [creations_append, creations_cons, creations_nil, Nat.zero_add] at few
  -- An id that comes in has not been destroyed before.
  have hgiven : ∀ id, e.created? = some id →
      id.value.toNat = creations history + 1 ∧ id ∉ destroyedIds history := by
    intro id hid
    rw [hid] at turn few
    have hval := h.numbered.value_nextId few
    rw [← turn.eq_nextId_of_given] at hval
    refine ⟨hval, fun hmem => ?_⟩
    have hle := h.destroyed_le id hmem
    omega
  refine ⟨?_, ?_, ?_, ?_⟩
  · simpa using turn.change.numbered h.numbered few
  · rw [createdIds_append, List.map_append, h.created_eq]
    cases hcreated : e.created? with
    | none => simp [hcreated]
    | some id =>
      have hval := (hgiven id hcreated).1
      simp [hcreated, hval, List.range'_concat, Nat.add_comm]
  · intro id hid
    rw [destroyedIds_append, List.mem_append] at hid
    simp only [creations_append, creations_cons, creations_nil, Nat.zero_add]
    rcases hid with hid | hid
    · have hle := h.destroyed_le id hid
      omega
    · have htaken : e.destroyed? = some id := by simpa using hid
      rw [htaken] at turn
      have hle := h.numbered.le_of_mem_ids turn.mem_of_taken
      omega
  · rw [turn.ids_eq h.numbered few, h.ids_eq, createdIds_append, destroyedIds_append,
      createdIds_singleton, destroyedIds_singleton]
    simp only [List.filter_append, List.filter_filter]
    congr 1
    · apply List.filter_congr
      intro id _
      simp [Bool.and_comm]
    · apply List.filter_congr
      intro id hid
      have hnot := (hgiven id (by simpa using hid)).2
      simp [hnot]

variable {table : Table (Pool β)}

theorem recorded_of_ran
    (hstep : ∀ {p e p'}, Step table p e p' → Turnover New Altered p e.created? e.destroyed? p')
    (run : Ran table ∅ history p) (few : creations history ≤ BufferId.count) :
    p.Recorded history := by
  induction run with
  | start => exact recorded_empty
  | step _ now ih =>
    have hfew := few
    rw [creations_append] at hfew
    exact (ih (by omega)).step (hstep now) few

end Pool

end DrmSurface
