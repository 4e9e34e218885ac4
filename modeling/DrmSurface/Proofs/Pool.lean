import DrmSurface.Buffer.Pool
import DrmSurface.Proofs.History

/-!
# What a pool holds

Facts about the buffers of a pool that do not depend on what a buffer is.

There are five groups.

* The values of a sorted map, up to their order.  Binding a fresh key adds a
  value, and removing a bound key takes its value away.
* `mapValues` and `Pool.map`, which change all values in one way.
* Numbering.  A pool is `Numbered` by `n` if the first `n` ids have been given
  out.  As long as there are ids left, the next id is a fresh one.
* `Pool.Change`, the ways in which one operation can change a pool.
* Histories of such changes.
-/

namespace DrmSurface

/-! ## The values of a sorted map -/

namespace SortedMap

variable {κ ν : Type} [Ord κ]

theorem insertEntry_perm {k : κ} {v : ν} {es : List (κ × ν)} (h : lookup k es = none) :
    (insertEntry k v es).Perm ((k, v) :: es) := by
  induction es with
  | nil => exact .refl _
  | cons e es ih =>
    rw [lookup] at h
    split at h
    · cases h
    · rename_i hne
      rw [insertEntry]
      split
      · exact .refl _
      · exact absurd ‹_› hne
      · exact (List.Perm.cons e (ih h)).trans (.swap _ _ _)

/-- In a sorted list no entry behind the first has its key. -/
theorem filter_ne_of_ascending {e : κ × ν} {es : List (κ × ν)}
    (h : (e :: es).Pairwise fun a b => compare a.1 b.1 = .lt) :
    (es.filter fun a => compare e.1 a.1 ≠ .eq) = es := by
  apply List.filter_eq_self.2
  intro a ha
  simp [(List.pairwise_cons.1 h).1 a ha]

theorem perm_cons_filter [Std.LawfulEqOrd κ] {k : κ} {v : ν} {es : List (κ × ν)}
    (hes : es.Pairwise fun a b => compare a.1 b.1 = .lt) (h : lookup k es = some v) :
    es.Perm ((k, v) :: es.filter fun a => compare k a.1 ≠ .eq) := by
  induction es with
  | nil => cases h
  | cons e es ih =>
    rw [lookup] at h
    split at h
    · rename_i heq
      cases h
      obtain rfl : k = e.1 := Std.LawfulEqCmp.eq_of_compare heq
      rw [List.filter_cons_of_neg (by simp), filter_ne_of_ascending hes]
    · rename_i hne
      rw [List.filter_cons_of_pos (by simpa using hne)]
      exact (List.Perm.cons e (ih (List.pairwise_cons.1 hes).2 h)).trans (.swap _ _ _)

theorem filter_insertEntry [Std.LawfulEqOrd κ] (k : κ) (v : ν) (es : List (κ × ν)) :
    ((insertEntry k v es).filter fun a => compare k a.1 ≠ .eq) =
      es.filter fun a => compare k a.1 ≠ .eq := by
  induction es with
  | nil => simp [insertEntry]
  | cons e es ih =>
    rw [insertEntry]
    split
    · simp
    · rename_i heq
      simp [heq]
    · rw [List.filter_cons, List.filter_cons, ih]

/-- Binding a fresh key adds one value. -/
theorem values_insert_perm [Std.TransOrd κ] [Std.LawfulEqOrd κ] {m : SortedMap κ ν} {k : κ}
    (h : m.get? k = none) (v : ν) :
    (m.insert k v).values.Perm (v :: m.values) := by
  have hperm : (insertEntry k v m.entries).Perm ((k, v) :: m.entries) := insertEntry_perm h
  exact hperm.map Prod.snd

/-- Removing a bound key takes one value away. -/
theorem values_perm_erase [Std.LawfulEqOrd κ] {m : SortedMap κ ν} {k : κ} {v : ν}
    (h : m.get? k = some v) :
    m.values.Perm (v :: (m.erase k).values) := by
  have hperm := perm_cons_filter m.ascending h
  exact hperm.map Prod.snd

/-- Binding a key and removing it again leaves what removing it leaves. -/
theorem erase_insert [Std.TransOrd κ] [Std.LawfulEqOrd κ] (m : SortedMap κ ν) (k : κ) (v : ν) :
    (m.insert k v).erase k = m.erase k := by
  simp only [erase, insert, filter_insertEntry]

/-- Removing a key that is not bound changes nothing. -/
theorem erase_of_get? [Std.LawfulEqOrd κ] {m : SortedMap κ ν} {k : κ} (h : m.get? k = none) :
    m.erase k = m := by
  have hfilter : m.entries.filter (fun a => compare k a.1 ≠ .eq) = m.entries := by
    refine List.filter_eq_self.2 fun a ha => ?_
    have hne : k ≠ a.1 := by
      rintro rfl
      have hmem : a.1 ∈ m.keys := List.mem_map_of_mem ha
      simp [mem_keys_iff, h] at hmem
    simpa using hne
  cases m
  simp only [erase, hfilter]

/-! ## Changing all values and all buffers -/

variable {μ : Type} (f : ν → μ)

/-- The map with every value changed in one way. -/
def mapValues (m : SortedMap κ ν) : SortedMap κ μ :=
  ⟨m.entries.map fun e => (e.1, f e.2), List.pairwise_map.2 m.ascending⟩

theorem ext_entries {m m' : SortedMap κ ν} (h : m.entries = m'.entries) : m = m' := by
  cases m
  cases m'
  congr

@[simp] theorem keys_mapValues (m : SortedMap κ ν) : (m.mapValues f).keys = m.keys := by
  simp [keys, mapValues]

@[simp] theorem values_mapValues (m : SortedMap κ ν) :
    (m.mapValues f).values = m.values.map f := by
  simp [values, mapValues]

@[simp] theorem get?_mapValues (m : SortedMap κ ν) (k : κ) :
    (m.mapValues f).get? k = (m.get? k).map f := by
  simp only [get?, mapValues]
  induction m.entries with
  | nil => rfl
  | cons e es ih =>
    rw [List.map_cons, lookup, lookup, ih]
    split <;> rfl

theorem mapValues_insert [Std.TransOrd κ] [Std.LawfulEqOrd κ] (m : SortedMap κ ν) (k : κ) (v : ν) :
    (m.insert k v).mapValues f = (m.mapValues f).insert k (f v) := by
  refine ext_entries ?_
  simp only [insert, mapValues]
  induction m.entries with
  | nil => rfl
  | cons e es ih =>
    rw [List.map_cons, insertEntry, insertEntry]
    split <;> simp_all

theorem mapValues_erase (m : SortedMap κ ν) (k : κ) :
    (m.erase k).mapValues f = (m.mapValues f).erase k := by
  refine ext_entries ?_
  simp only [erase, mapValues, List.filter_map]
  rfl

end SortedMap

namespace Pool

section Map

variable {β γ : Type} (f : β → γ) (p : Pool β) (id : BufferId) (b : β)

/-- The pool with every buffer changed in one way. -/
def map : Pool γ := { nextId := p.nextId, buffers := p.buffers.mapValues f, live := p.live }

@[simp] theorem nextId_map : (p.map f).nextId = p.nextId := rfl

@[simp] theorem live_map : (p.map f).live = p.live := rfl

@[simp] theorem ids_map : (p.map f).ids = p.ids := p.buffers.keys_mapValues f

@[simp] theorem get?_map : (p.map f).get? id = (p.get? id).map f := p.buffers.get?_mapValues f id

theorem map_add : (p.add b).map f = (p.map f).add (f b) := by
  simp only [map, add, SortedMap.mapValues_insert]

theorem map_set : (p.set id b).map f = (p.map f).set id (f b) := by
  simp only [map, set, SortedMap.mapValues_insert]

theorem map_erase : (p.erase id).map f = (p.map f).erase id := by
  simp only [map, erase, SortedMap.mapValues_erase]

theorem map_freed : p.freed.map f = (p.map f).freed := rfl

theorem map_emptied : p.emptied.map f = (p.map f).emptied := rfl

end Map

end Pool

/-! ## Numbering -/

/-- The number of buffer ids. -/
def BufferId.count : Nat := UInt32.size - 1

theorem BufferId.value_next {id : BufferId} (h : id.value.toNat < BufferId.count) :
    id.next.value.toNat = id.value.toNat + 1 := by
  have hsum : (id.value + 1).toNat = id.value.toNat + 1 := by
    rw [UInt32.toNat_add]
    simp only [BufferId.count] at h
    exact Nat.mod_eq_of_lt (by simpa using Nat.add_lt_of_lt_sub h)
  have hne : id.value + 1 ≠ 0 := by
    intro hzero
    rw [hzero] at hsum
    simp at hsum
  rw [next, dif_pos hne, hsum]

namespace Pool

variable {β : Type} {p : Pool β} {n : Nat} {id : BufferId} {b : β}

/-- The first `n` ids have been given out, and no buffer has another one. -/
structure Numbered (p : Pool β) (n : Nat) : Prop where
  le_of_get? : ∀ {id b}, p.get? id = some b → id.value.toNat ≤ n
  value_nextId : n < BufferId.count → p.nextId.value.toNat = n + 1

theorem Numbered.fresh (h : p.Numbered n) (hn : n < BufferId.count) :
    p.get? p.nextId = none := by
  cases hget : p.get? p.nextId with
  | none => rfl
  | some b =>
    have hle := h.le_of_get? hget
    have hval := h.value_nextId hn
    omega

theorem numbered_empty : (∅ : Pool β).Numbered 0 where
  le_of_get? h := by cases h
  value_nextId _ := rfl

theorem Numbered.add (h : p.Numbered n) (hn : n < BufferId.count) : (p.add b).Numbered (n + 1) where
  le_of_get? := by
    intro id b' hget
    rw [get?_add] at hget
    split at hget
    · rename_i hid
      have hval := h.value_nextId hn
      rw [hid]
      omega
    · have := h.le_of_get? hget
      omega
  value_nextId hn' := by
    have hval := h.value_nextId hn
    have hnext : p.nextId.next.value.toNat = p.nextId.value.toNat + 1 :=
      BufferId.value_next (by omega)
    rw [Pool.add, hnext, hval]

theorem Numbered.set (h : p.Numbered n) (hget : p.get? id = some b) (b' : β) :
    (p.set id b').Numbered n where
  le_of_get? := by
    intro id' c hget'
    rw [get?_set] at hget'
    split at hget'
    · rename_i hid
      exact hid ▸ h.le_of_get? hget
    · exact h.le_of_get? hget'
  value_nextId := h.value_nextId

theorem Numbered.erase (h : p.Numbered n) : (p.erase id).Numbered n where
  le_of_get? := by
    intro id' b hget
    rw [get?_erase] at hget
    split at hget
    · cases hget
    · exact h.le_of_get? hget
  value_nextId := h.value_nextId

theorem Numbered.freed (h : p.Numbered n) : p.freed.Numbered n where
  le_of_get? := h.le_of_get?
  value_nextId := h.value_nextId

/-! ## Changes -/

/-- The ways in which one operation changes a pool.  A buffer that comes in
is `New` under its id, and a buffer that changes is `Altered`.  The option
is the id that the operation gives out. -/
inductive Change (New : BufferId → β → Prop) (Altered : β → β → Prop) (p : Pool β) :
    Option BufferId → Pool β → Prop where
  | kept : Change New Altered p none p
  | added {b : β} (h : New p.nextId b) : Change New Altered p (some p.nextId) (p.add b)
  | altered {id : BufferId} {b b' : β} (found : p.get? id = some b) (h : Altered b b') :
      Change New Altered p none (p.set id b')
  | erased {id : BufferId} : Change New Altered p none (p.erase id)
  | freed {id : BufferId} : Change New Altered p none (p.erase id).freed

variable {New : BufferId → β → Prop} {Altered : β → β → Prop} {p' : Pool β}
  {given : Option BufferId}

/-- A buffer of the changed pool is a new one, or it was there before. -/
theorem Change.get?_cases (h : Change New Altered p given p') (hget : p'.get? id = some b) :
    (given = some id ∧ id = p.nextId ∧ New id b) ∨
      ∃ b₀, p.get? id = some b₀ ∧ (b = b₀ ∨ Altered b₀ b) := by
  cases h with
  | kept => exact .inr ⟨b, hget, .inl rfl⟩
  | added hnew =>
    rw [get?_add] at hget
    split at hget
    · rename_i hid
      cases hget
      subst hid
      exact .inl ⟨rfl, rfl, hnew⟩
    · exact .inr ⟨b, hget, .inl rfl⟩
  | altered found halt =>
    rw [get?_set] at hget
    split at hget
    · rename_i hid
      cases hget
      subst hid
      exact .inr ⟨_, found, .inr halt⟩
    · exact .inr ⟨b, hget, .inl rfl⟩
  | erased | freed =>
    simp only [get?_freed, get?_erase] at hget
    split at hget
    · cases hget
    · exact .inr ⟨b, hget, .inl rfl⟩

/-- The numbering goes on with each id that is given out. -/
theorem Change.numbered (h : Change New Altered p given p') (hp : p.Numbered n)
    (few : n + (if given.isSome then 1 else 0) ≤ BufferId.count) :
    p'.Numbered (n + if given.isSome then 1 else 0) := by
  cases h with
  | kept => exact hp
  | added _ =>
    have hn : n < BufferId.count := few
    exact hp.add hn
  | altered found _ => exact hp.set found _
  | erased => exact hp.erase
  | freed => exact hp.erase.freed

/-- An id that was given out before an operation is not given out again. -/
theorem Change.get?_of_le (h : Change New Altered p given p') (hp : p.Numbered n)
    (few : n + (if given.isSome then 1 else 0) ≤ BufferId.count) (hid : id.value.toNat ≤ n)
    (hget : p'.get? id = some b) : ∃ b₀, p.get? id = some b₀ ∧ (b = b₀ ∨ Altered b₀ b) := by
  rcases h.get?_cases hget with ⟨rfl, rfl, -⟩ | hold
  · have hn : n < BufferId.count := few
    have hval := hp.value_nextId hn
    omega
  · exact hold

/-! ## Histories -/

section Histories

variable {table : Table (Pool β)} {history : List Episode}

/-- In a history that changes its pool in these ways the numbering goes on, as
long as there are ids. -/
theorem numbered_of_ran_from
    (hstep : ∀ {p e p'}, Step table p e p' → Change New Altered p e.created? p')
    (run : Ran table p history p') (hp : p.Numbered n)
    (few : n + creations history ≤ BufferId.count) : p'.Numbered (n + creations history) := by
  induction run with
  | start => exact hp
  | step _ now ih =>
    simp only [creations_append, creations_cons, creations_nil, Nat.zero_add] at few ⊢
    rw [← Nat.add_assoc] at few ⊢
    exact (hstep now).numbered (ih (by omega)) few

theorem numbered_of_ran
    (hstep : ∀ {p e p'}, Step table p e p' → Change New Altered p e.created? p')
    (run : Ran table ∅ history p) (few : creations history ≤ BufferId.count) :
    p.Numbered (creations history) := by
  simpa using numbered_of_ran_from hstep run numbered_empty (by simpa using few)

/-- A buffer that was there under an id before a history, and one that is
there under it afterwards, are the same one, perhaps altered. -/
theorem get?_of_ran
    (hstep : ∀ {p e p'}, Step table p e p' → Change New Altered p e.created? p')
    (hrefl : ∀ b, Altered b b) (htrans : ∀ {a b c}, Altered a b → Altered b c → Altered a c)
    (run : Ran table p history p') (hp : p.Numbered n)
    (few : n + creations history ≤ BufferId.count) (hid : id.value.toNat ≤ n)
    (hget : p'.get? id = some b) : ∃ b₀, p.get? id = some b₀ ∧ Altered b₀ b := by
  induction run generalizing b with
  | start => exact ⟨b, hget, hrefl b⟩
  | @step history s s' e before now ih =>
    simp only [creations_append, creations_cons, creations_nil, Nat.zero_add] at few
    have hs := numbered_of_ran_from hstep before hp (by omega)
    obtain ⟨b₁, hb₁, halt⟩ := (hstep now).get?_of_le hs (by omega) (by omega) hget
    obtain ⟨b₀, hb₀, hbefore⟩ := ih (by omega) hb₁
    refine ⟨b₀, hb₀, ?_⟩
    rcases halt with rfl | halt
    · exact hbefore
    · exact htrans hbefore halt

/-- The same for an id that is not given out again, whatever its number. -/
theorem get?_of_ran_of_not_given
    (hstep : ∀ {p e p'}, Step table p e p' → Change New Altered p e.created? p')
    (hrefl : ∀ b, Altered b b) (htrans : ∀ {a b c}, Altered a b → Altered b c → Altered a c)
    (run : Ran table p history p') (hgiven : ∀ e ∈ history, e.created? ≠ some id)
    (hget : p'.get? id = some b) : ∃ b₀, p.get? id = some b₀ ∧ Altered b₀ b := by
  induction run generalizing b with
  | start => exact ⟨b, hget, hrefl b⟩
  | @step history s s' e before now ih =>
    rcases (hstep now).get?_cases hget with ⟨hcreated, -, -⟩ | ⟨b₁, hb₁, halt⟩
    · exact absurd hcreated (hgiven e (by simp))
    · obtain ⟨b₀, hb₀, hbefore⟩ := ih (fun e he => hgiven e (by simp [he])) hb₁
      refine ⟨b₀, hb₀, ?_⟩
      rcases halt with rfl | halt
      · exact hbefore
      · exact htrans hbefore halt

/-- A buffer that is there after a history was created in it, and it is the
same one since then, perhaps altered. -/
theorem born_of_ran
    (hstep : ∀ {p e p'}, Step table p e p' → Change New Altered p e.created? p')
    (hrefl : ∀ b, Altered b b) (htrans : ∀ {a b c}, Altered a b → Altered b c → Altered a c)
    (run : Ran table ∅ history p) (hget : p.get? id = some b) :
    ∃ before e after s s' b₀, history = before ++ e :: after ∧ Ran table ∅ before s ∧
      Step table s e s' ∧ e.created? = some id ∧ s'.get? id = some b₀ ∧ Altered b₀ b := by
  induction run generalizing b with
  | start => cases hget
  | @step history s s' e hbefore now ih =>
    rcases (hstep now).get?_cases hget with ⟨hcreated, -, -⟩ | ⟨b₁, hb₁, halt⟩
    · exact ⟨history, e, [], s, s', b, rfl, hbefore, now, hcreated, hget, hrefl b⟩
    · obtain ⟨before, e₀, after, s₁, s₂, b₀, rfl, hran, hnow, hcreated, hb₀, hold⟩ := ih hb₁
      refine ⟨before, e₀, after ++ [e], s₁, s₂, b₀, by simp, hran, hnow, hcreated, hb₀, ?_⟩
      rcases halt with rfl | halt
      · exact hold
      · exact htrans hold halt

/-- What holds of new buffers, and goes on to hold of altered ones, holds of
all buffers after any history. -/
theorem forall_buffers_of_ran {Sound : BufferId → β → Prop}
    (hstep : ∀ {p e p'}, Step table p e p' → Change New Altered p e.created? p')
    (hnew : ∀ {id b}, New id b → Sound id b)
    (haltered : ∀ {id b b'}, Altered b b' → Sound id b → Sound id b')
    (run : Ran table ∅ history p) : ∀ {id b}, p.get? id = some b → Sound id b := by
  induction run with
  | start =>
    intro id b h
    cases h
  | step _ now ih =>
    intro id b h
    rcases (hstep now).get?_cases h with ⟨-, -, hb⟩ | ⟨b₀, hget, rfl | halt⟩
    · exact hnew hb
    · exact ih hget
    · exact haltered halt (ih hget)

end Histories

end Pool

end DrmSurface
