/-!
# Buffer ids

The numbers by which a driver tells its buffers apart.  An id is a nonzero
word, counted up from one; after the last word the count starts again at
one.
-/

namespace DrmSurface

/-- The number of a buffer inside its driver. -/
structure BufferId where
  value : UInt32
  value_ne_zero : value ≠ 0 := by decide
  deriving DecidableEq

namespace BufferId

/-- The first id. -/
def first : BufferId := ⟨1, by decide⟩

instance : Inhabited BufferId := ⟨first⟩

/-- The id after an id; the first one follows the last. -/
def next (id : BufferId) : BufferId :=
  if h : id.value + 1 ≠ 0 then ⟨id.value + 1, h⟩ else first

/-- The id with a given number; zero numbers no buffer. -/
def ofNat? (n : Nat) : Option BufferId :=
  if h : UInt32.ofNat n ≠ 0 ∧ n < UInt32.size then some ⟨UInt32.ofNat n, h.1⟩ else none

/-- An id as text. -/
def display (id : BufferId) : String := s!"#{id.value}"

instance : Ord BufferId := ⟨compareOn value⟩

theorem compare_def (a b : BufferId) : compare a b = compare a.value b.value := rfl

instance : Std.TransOrd BufferId where
  eq_swap := fun {a b} => by
    simp only [compare_def]
    exact Std.OrientedCmp.eq_swap
  isLE_trans := fun {a b c} hab hbc => by
    simp only [compare_def] at *
    exact Std.TransCmp.isLE_trans hab hbc

instance : Std.LawfulEqOrd BufferId where
  compare_self := by simp
  eq_of_compare := fun {a b} h => by
    have hv : a.value = b.value := by simpa [compare_def] using h
    cases a
    cases b
    simpa using hv

end BufferId

end DrmSurface
