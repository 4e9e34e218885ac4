/-!
# Splitting

Cutting a list of characters at the first occurrence of a character.
-/

namespace DrmSurface.Text

/-- What stands before and after the first `c`, if there is one. -/
def splitOnce (c : Char) : List Char → Option (List Char × List Char)
  | [] => none
  | d :: rest =>
    if d = c then some ([], rest)
    else (splitOnce c rest).map fun (before, after) => (d :: before, after)

/-- A list splits into the parts around the first `c`. -/
theorem splitOnce_eq_some_iff {c : Char} {s before after : List Char} :
    splitOnce c s = some (before, after) ↔ s = before ++ c :: after ∧ c ∉ before := by
  induction s generalizing before with
  | nil => simp [splitOnce]
  | cons d rest ih =>
    rw [splitOnce]
    by_cases hd : d = c
    · subst hd
      cases before with
      | nil => simp [eq_comm]
      | cons b bs => simp [eq_comm]; grind
    · cases before with
      | nil => simp [hd]
      | cons b bs =>
        simp only [hd, if_false, Option.map_eq_some_iff, Prod.mk.injEq, Prod.exists]
        constructor
        · rintro ⟨before, after', h, hb, rfl⟩
          obtain ⟨rfl, rfl⟩ := List.cons.inj hb
          obtain ⟨rfl, hc⟩ := ih.1 h
          simp [hc, Ne.symm hd]
        · rintro ⟨h, hc⟩
          simp only [List.cons_append, List.cons.injEq] at h
          obtain ⟨rfl, rfl⟩ := h
          simp only [List.mem_cons, not_or] at hc
          exact ⟨bs, after, ih.2 ⟨rfl, hc.2⟩, rfl, rfl⟩

end DrmSurface.Text
