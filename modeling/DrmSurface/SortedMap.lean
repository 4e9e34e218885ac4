/-!
# Sorted maps

A finite map kept as its list of entries in strictly ascending key order.
Iteration therefore goes in key order, and two maps with the same entries
are equal.

There are three groups.

* The type, with `insert`, `erase` and the views `entries`, `keys`,
  `values` and `get?`.
* The order.  `insertEntry_ascending` is the fact that `insert` rests on.
* Look-up.  `get?_insert` and `get?_erase` say what each operation does to
  `get?`, and `mem_keys_iff` ties `keys` to `get?`.
-/

namespace DrmSurface

/-- A finite map from `κ` to `ν`, held as its entries in ascending key
order.  No key occurs twice, since a key is not below itself. -/
structure SortedMap (κ ν : Type) [Ord κ] where
  entries : List (κ × ν)
  ascending : entries.Pairwise fun a b => compare a.1 b.1 = .lt

namespace SortedMap

variable {κ ν : Type} [Ord κ]

/-! ## Operations -/

/-- The map without entries. -/
def empty : SortedMap κ ν := ⟨[], .nil⟩

instance : EmptyCollection (SortedMap κ ν) := ⟨empty⟩

instance : Inhabited (SortedMap κ ν) := ⟨empty⟩

/-- The keys, ascending. -/
def keys (m : SortedMap κ ν) : List κ := m.entries.map (·.1)

/-- The values, in the order of their keys. -/
def values (m : SortedMap κ ν) : List ν := m.entries.map (·.2)

/-- The number of entries. -/
def size (m : SortedMap κ ν) : Nat := m.entries.length

/-- The value of the first entry for `k` in a list of entries. -/
def lookup (k : κ) : List (κ × ν) → Option ν
  | [] => none
  | e :: es => if compare k e.1 = .eq then some e.2 else lookup k es

/-- The value that `m` holds for `k`. -/
def get? (m : SortedMap κ ν) (k : κ) : Option ν := lookup k m.entries

/-- Puts an entry in its place; an entry of the same key is replaced. -/
def insertEntry (k : κ) (v : ν) : List (κ × ν) → List (κ × ν)
  | [] => [(k, v)]
  | e :: es =>
    match compare k e.1 with
    | .lt => (k, v) :: e :: es
    | .eq => (k, v) :: es
    | .gt => e :: insertEntry k v es

theorem mem_insertEntry {k : κ} {v : ν} {es : List (κ × ν)} {e : κ × ν}
    (h : e ∈ insertEntry k v es) : e = (k, v) ∨ e ∈ es := by
  induction es with
  | nil => simpa [insertEntry] using h
  | cons a es ih =>
    rw [insertEntry] at h
    split at h <;> simp only [List.mem_cons] at h ⊢
    · exact h
    · exact h.imp id .inr
    · rcases h with h | h
      · exact .inr (.inl h)
      · exact (ih h).imp id .inr

theorem insertEntry_ascending [Std.TransOrd κ] [Std.LawfulEqOrd κ]
    (k : κ) (v : ν) {es : List (κ × ν)}
    (h : es.Pairwise fun a b => compare a.1 b.1 = .lt) :
    (insertEntry k v es).Pairwise fun a b => compare a.1 b.1 = .lt := by
  induction es with
  | nil => simp [insertEntry]
  | cons a es ih =>
    obtain ⟨ha, hes⟩ := List.pairwise_cons.1 h
    rw [insertEntry]
    split
    · rename_i hlt
      refine List.pairwise_cons.2 ⟨fun b hb => ?_, h⟩
      rcases List.mem_cons.1 hb with rfl | hb
      · exact hlt
      · exact Std.TransCmp.lt_trans hlt (ha b hb)
    · rename_i heq
      have hk : k = a.1 := Std.LawfulEqCmp.eq_of_compare heq
      exact List.pairwise_cons.2 ⟨fun b hb => hk ▸ ha b hb, hes⟩
    · rename_i hgt
      refine List.pairwise_cons.2 ⟨fun b hb => ?_, ih hes⟩
      rcases mem_insertEntry hb with rfl | hb
      · exact Std.OrientedCmp.lt_of_gt hgt
      · exact ha b hb

/-- Binds `k` to `v`; an earlier value of `k` is replaced. -/
def insert [Std.TransOrd κ] [Std.LawfulEqOrd κ] (m : SortedMap κ ν) (k : κ) (v : ν) :
    SortedMap κ ν :=
  ⟨insertEntry k v m.entries, insertEntry_ascending k v m.ascending⟩

/-- Removes the entry of `k`, if there is one. -/
def erase (m : SortedMap κ ν) (k : κ) : SortedMap κ ν :=
  ⟨m.entries.filter fun e => compare k e.1 ≠ .eq, m.ascending.filter _⟩

/-! ## Look-up -/

@[simp] theorem get?_empty (k : κ) : (∅ : SortedMap κ ν).get? k = none := rfl

@[simp] theorem keys_empty : (∅ : SortedMap κ ν).keys = [] := rfl

theorem lookup_insertEntry [Std.TransOrd κ] [Std.LawfulEqOrd κ] [DecidableEq κ]
    (k j : κ) (v : ν) (es : List (κ × ν)) :
    lookup j (insertEntry k v es) = if j = k then some v else lookup j es := by
  induction es with
  | nil => simp [insertEntry, lookup]
  | cons a es ih =>
    rw [insertEntry]
    split
    · simp [lookup]
    · rename_i heq
      have hk : k = a.1 := Std.LawfulEqCmp.eq_of_compare heq
      subst hk
      by_cases hj : j = a.1 <;> simp [lookup, hj]
    · rename_i hgt
      have hne : k ≠ a.1 := by
        rintro rfl
        simp [Std.ReflCmp.compare_self] at hgt
      by_cases hj : j = k
      · subst hj
        simp [lookup, hne, ih]
      · simp [lookup, ih, hj]

/-- After binding `k` to `v` only the value of `k` has changed. -/
@[simp] theorem get?_insert [Std.TransOrd κ] [Std.LawfulEqOrd κ] [DecidableEq κ]
    (m : SortedMap κ ν) (k j : κ) (v : ν) :
    (m.insert k v).get? j = if j = k then some v else m.get? j :=
  lookup_insertEntry k j v m.entries

theorem lookup_filter_ne [Std.LawfulEqOrd κ] [DecidableEq κ]
    (k j : κ) (es : List (κ × ν)) :
    lookup j (es.filter fun e => compare k e.1 ≠ .eq) =
      if j = k then none else lookup j es := by
  induction es with
  | nil => simp [lookup]
  | cons a es ih =>
    simp only [Std.compare_eq_iff_eq, ne_eq, decide_not] at ih ⊢
    by_cases ha : k = a.1 <;> by_cases hj : j = k <;> simp_all [lookup]

/-- After removing `k` only `k` is unbound that was bound before. -/
@[simp] theorem get?_erase [Std.LawfulEqOrd κ] [DecidableEq κ]
    (m : SortedMap κ ν) (k j : κ) :
    (m.erase k).get? j = if j = k then none else m.get? j :=
  lookup_filter_ne k j m.entries

/-- The keys of a map are the keys that have a value. -/
theorem mem_keys_iff [Std.LawfulEqOrd κ] (m : SortedMap κ ν) (k : κ) :
    k ∈ m.keys ↔ (m.get? k).isSome := by
  simp only [keys, get?]
  induction m.entries with
  | nil => simp [lookup]
  | cons a es ih => by_cases ha : k = a.1 <;> simp_all [lookup]

end SortedMap

end DrmSurface
