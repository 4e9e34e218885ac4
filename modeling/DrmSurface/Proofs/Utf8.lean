import DrmSurface.Proofs.Text
import DrmSurface.Text.Utf8
import Mathlib.Tactic.SplitIfs

/-!
# UTF-8, read and compared

The reader of UTF-8 against the encoding of the core library, and the order of texts
against that of their bytes.

There are three groups.

* Sequences.  `Spells n bytes` is what the reader takes for one character: the length
  that the first byte announces, the bounds of the second byte and the bits that each
  byte contributes.  The encoding of a character is the one such sequence that has its
  number (`spells_utf8EncodeChar`, `Spells.utf8EncodeChar_eq`).
* Reading.  `decodeUtf8_eq_ok_iff` says that the reader is the inverse of the encoding,
  and so that it refuses what encodes no text (`decodeUtf8_eq_error_iff`).
* Order.  Texts are in the order of their bytes (`toUTF8_lt_of_lt`).
-/

namespace DrmSurface.Text

/-! ## Sequences -/

section Sequences

variable {b c d e low high : UInt8} {ch : Char}

/-- The table of first bytes, by their numbers. -/
theorem leadByte_eq (b : UInt8) : leadByte b =
    if b.toNat ≤ 0x7f then some (1, 0, 0)
    else if 0xc2 ≤ b.toNat ∧ b.toNat ≤ 0xdf then some (2, 0x80, 0xbf)
    else if b.toNat = 0xe0 then some (3, 0xa0, 0xbf)
    else if b.toNat = 0xed then some (3, 0x80, 0x9f)
    else if 0xe1 ≤ b.toNat ∧ b.toNat ≤ 0xef then some (3, 0x80, 0xbf)
    else if b.toNat = 0xf0 then some (4, 0x90, 0xbf)
    else if 0xf1 ≤ b.toNat ∧ b.toNat ≤ 0xf3 then some (4, 0x80, 0xbf)
    else if b.toNat = 0xf4 then some (4, 0x80, 0x8f)
    else none := by
  have heq : ∀ k, b = k ↔ b.toNat = k.toNat := fun _ => UInt8.toNat_inj.symm
  simp only [leadByte, UInt8.le_iff_toNat_le, heq, UInt8.reduceToNat, beq_iff_eq,
    Bool.and_eq_true, decide_eq_true_eq]

theorem leadByte_one_iff :
    leadByte b = some (1, low, high) ↔ b.toNat ≤ 0x7f ∧ low = 0 ∧ high = 0 := by
  rw [leadByte_eq]
  grind

theorem leadByte_two_iff : leadByte b = some (2, low, high) ↔
    (0xc2 ≤ b.toNat ∧ b.toNat ≤ 0xdf) ∧ low = 0x80 ∧ high = 0xbf := by
  rw [leadByte_eq]
  grind

theorem leadByte_three_iff : leadByte b = some (3, low, high) ↔
    (0xe0 ≤ b.toNat ∧ b.toNat ≤ 0xef) ∧ low = (if b.toNat = 0xe0 then 0xa0 else 0x80) ∧
      high = if b.toNat = 0xed then 0x9f else 0xbf := by
  rw [leadByte_eq]
  grind

theorem leadByte_four_iff : leadByte b = some (4, low, high) ↔
    (0xf0 ≤ b.toNat ∧ b.toNat ≤ 0xf4) ∧ low = (if b.toNat = 0xf0 then 0x90 else 0x80) ∧
      high = if b.toNat = 0xf4 then 0x8f else 0xbf := by
  rw [leadByte_eq]
  grind

/-- A first byte announces one to four bytes. -/
theorem length_of_leadByte {length : Nat} (h : leadByte b = some (length, low, high)) :
    length = 1 ∨ length = 2 ∨ length = 3 ∨ length = 4 := by
  unfold leadByte at h
  grind

/-- A sequence of bytes is well formed and has the number `n`. -/
inductive Spells (n : Nat) : List UInt8 → Prop where
  | one {b low high : UInt8} (hlead : leadByte b = some (1, low, high)) (hn : n = b.toNat) :
      Spells n [b]
  | two {b c low high : UInt8} (hlead : leadByte b = some (2, low, high))
      (hsecond : low ≤ c ∧ c ≤ high) (hn : n = b.toNat % 32 * 64 + payload c) : Spells n [b, c]
  | three {b c d low high : UInt8} (hlead : leadByte b = some (3, low, high))
      (hsecond : low ≤ c ∧ c ≤ high) (hthird : isContinuation d)
      (hn : n = b.toNat % 16 * 4096 + payload c * 64 + payload d) : Spells n [b, c, d]
  | four {b c d e low high : UInt8} (hlead : leadByte b = some (4, low, high))
      (hsecond : low ≤ c ∧ c ≤ high) (hthird : isContinuation d) (hfourth : isContinuation e)
      (hn : n = b.toNat % 8 * 262144 + payload c * 4096 + payload d * 64 + payload e) :
      Spells n [b, c, d, e]

variable {bytes : List UInt8} {n : Nat}

theorem isContinuation_iff : isContinuation b ↔ 0x80 ≤ b.toNat ∧ b.toNat ≤ 0xbf := by
  simp [isContinuation, UInt8.le_iff_toNat_le]

theorem second_of_three (hlead : leadByte b = some (3, low, high)) (hc : low ≤ c ∧ c ≤ high) :
    (0x80 ≤ c.toNat ∧ c.toNat ≤ 0xbf) ∧ (b.toNat = 0xe0 → 0xa0 ≤ c.toNat) ∧
      (b.toNat = 0xed → c.toNat ≤ 0x9f) := by
  obtain ⟨-, rfl, rfl⟩ := leadByte_three_iff.1 hlead
  simp only [UInt8.le_iff_toNat_le, apply_ite UInt8.toNat, UInt8.reduceToNat] at hc
  split_ifs at hc <;> omega

theorem second_of_four (hlead : leadByte b = some (4, low, high)) (hc : low ≤ c ∧ c ≤ high) :
    (0x80 ≤ c.toNat ∧ c.toNat ≤ 0xbf) ∧ (b.toNat = 0xf0 → 0x90 ≤ c.toNat) ∧
      (b.toNat = 0xf4 → c.toNat ≤ 0x8f) := by
  obtain ⟨-, rfl, rfl⟩ := leadByte_four_iff.1 hlead
  simp only [UInt8.le_iff_toNat_le, apply_ite UInt8.toNat, UInt8.reduceToNat] at hc
  split_ifs at hc <;> omega

/-- What the length of a sequence says of its number: no sequence is longer than its
number needs, and no number is that of a surrogate or too large. -/
theorem Spells.bounds (h : Spells n bytes) :
    bytes.length = 1 ∧ n ≤ 0x7f ∨ bytes.length = 2 ∧ 0x80 ≤ n ∧ n ≤ 0x7ff ∨
      bytes.length = 3 ∧ 0x800 ≤ n ∧ n ≤ 0xffff ∧ n.isValidChar ∨
      bytes.length = 4 ∧ 0x10000 ≤ n ∧ n.isValidChar := by
  simp only [Nat.isValidChar]
  cases h with
  | one hlead hn =>
    obtain ⟨hb, -⟩ := leadByte_one_iff.1 hlead
    exact .inl ⟨rfl, by omega⟩
  | two hlead hc hn =>
    obtain ⟨hb, rfl, rfl⟩ := leadByte_two_iff.1 hlead
    simp only [payload] at hn
    exact .inr (.inl ⟨rfl, by omega⟩)
  | three hlead hc hd hn =>
    have hsecond := second_of_three hlead hc
    obtain ⟨hb, -⟩ := leadByte_three_iff.1 hlead
    simp only [payload] at hn
    exact .inr (.inr (.inl ⟨rfl, by omega⟩))
  | four hlead hc hd he hn =>
    have hsecond := second_of_four hlead hc
    obtain ⟨hb, -⟩ := leadByte_four_iff.1 hlead
    simp only [payload] at hn
    exact .inr (.inr (.inr ⟨rfl, by omega⟩))

theorem Spells.isValidChar (h : Spells n bytes) : n.isValidChar := by
  rcases h.bounds with ⟨-, hn⟩ | ⟨-, -, hn⟩ | ⟨-, -, -, hvalid⟩ | ⟨-, -, hvalid⟩
  · exact .inl (by omega)
  · exact .inl (by omega)
  · exact hvalid
  · exact hvalid

/-- A character whose number a well-formed sequence has is encoded by it. -/
theorem Spells.utf8EncodeChar_eq (h : Spells n bytes) (hch : ch.toNat = n) :
    String.utf8EncodeChar ch = bytes := by
  have hbounds := h.bounds
  simp only [String.utf8EncodeChar, show ch.val.toNat = n from hch]
  cases h with
  | one hlead hn =>
    rw [if_pos (by grind)]
    simp [hn]
  | two hlead hc hn =>
    obtain ⟨hb, rfl, rfl⟩ := leadByte_two_iff.1 hlead
    rw [if_neg (by grind), if_pos (by grind)]
    simp only [UInt8.le_iff_toNat_le, UInt8.reduceToNat, payload] at hc hn
    simp only [List.cons.injEq, ← UInt8.toNat_inj, UInt8.toNat_ofNat', and_true]
    omega
  | three hlead hc hd hn =>
    have hsecond := second_of_three hlead hc
    obtain ⟨hb, -⟩ := leadByte_three_iff.1 hlead
    rw [isContinuation_iff] at hd
    rw [if_neg (by grind), if_neg (by grind), if_pos (by grind)]
    simp only [payload] at hn
    simp only [List.cons.injEq, ← UInt8.toNat_inj, UInt8.toNat_ofNat', and_true]
    omega
  | four hlead hc hd he hn =>
    have hsecond := second_of_four hlead hc
    obtain ⟨hb, -⟩ := leadByte_four_iff.1 hlead
    rw [isContinuation_iff] at hd he
    rw [if_neg (by grind), if_neg (by grind), if_neg (by grind)]
    simp only [payload] at hn
    simp only [List.cons.injEq, ← UInt8.toNat_inj, UInt8.toNat_ofNat', and_true]
    omega

/-- Each character is encoded by a well-formed sequence that has its number. -/
theorem spells_utf8EncodeChar (ch : Char) : Spells ch.toNat (String.utf8EncodeChar ch) := by
  have hvalid : ch.val.toNat < 0xd800 ∨ 0xdfff < ch.val.toNat ∧ ch.val.toNat < 0x110000 :=
    ch.valid
  change Spells ch.val.toNat _
  simp only [String.utf8EncodeChar]
  generalize ch.val.toNat = n at hvalid
  split_ifs with h1 h2 h3
  · refine .one (leadByte_one_iff.2 ⟨?_, rfl, rfl⟩) ?_ <;> rw [UInt8.toNat_ofNat'] <;> omega
  · refine .two (leadByte_two_iff.2 ⟨?_, rfl, rfl⟩) ?_ ?_ <;>
      simp only [UInt8.toNat_ofNat', UInt8.le_iff_toNat_le, UInt8.reduceToNat, payload] <;>
      omega
  · refine .three (leadByte_three_iff.2 ⟨?_, rfl, rfl⟩) ?_ ?_ ?_ <;>
      simp only [UInt8.toNat_ofNat', UInt8.le_iff_toNat_le, UInt8.reduceToNat,
        apply_ite UInt8.toNat, isContinuation_iff, payload]
    · omega
    · split_ifs <;> omega
    · omega
    · omega
  · refine .four (leadByte_four_iff.2 ⟨?_, rfl, rfl⟩) ?_ ?_ ?_ ?_ <;>
      simp only [UInt8.toNat_ofNat', UInt8.le_iff_toNat_le, UInt8.reduceToNat,
        apply_ite UInt8.toNat, isContinuation_iff, payload]
    · omega
    · split_ifs <;> omega
    · omega
    · omega
    · omega

end Sequences

/-! ## Reading -/

section Reading

variable {index n : Nat} {bytes rest : List UInt8} {cs : List Char}

/-- The reader takes a well-formed sequence off the bytes. -/
theorem decodeFrom_of_spells (h : Spells n bytes) :
    decodeFrom index (bytes ++ rest) =
      (decodeFrom (index + bytes.length) rest).map (Char.ofNat n :: ·) := by
  cases h with
  | one hlead hn => simp [decodeFrom, hlead, hn]
  | two hlead hc hn => simp [decodeFrom, hlead, hc, hn]
  | three hlead hc hd hn => simp [decodeFrom, hlead, hc, hd, hn]
  | four hlead hc hd he hn => simp [decodeFrom, hlead, hc, hd, he, hn]

theorem decodeFrom_flatMap (cs : List Char) :
    decodeFrom index (cs.flatMap String.utf8EncodeChar) = .ok cs := by
  induction cs generalizing index with
  | nil => simp [decodeFrom]
  | cons ch cs ih =>
    rw [List.flatMap_cons, decodeFrom_of_spells (spells_utf8EncodeChar ch), ih, Char.ofNat_toNat]
    rfl

/-- The reader takes nothing but well-formed sequences. -/
theorem flatMap_of_decodeFrom (h : decodeFrom index bytes = .ok cs) :
    cs.flatMap String.utf8EncodeChar = bytes := by
  have hstep : ∀ {n next : Nat} {first rest : List UInt8} {cs : List Char}, Spells n first →
      (∀ {cs}, decodeFrom next rest = .ok cs → cs.flatMap String.utf8EncodeChar = rest) →
      (decodeFrom next rest).map (Char.ofNat n :: ·) = .ok cs →
      cs.flatMap String.utf8EncodeChar = first ++ rest := by
    intro n next first rest cs hspells ih h
    cases hrest : decodeFrom next rest with
    | error e => simp [hrest, Except.map] at h
    | ok cs' =>
      obtain rfl : Char.ofNat n :: cs' = cs := by simpa [hrest, Except.map] using h
      rw [List.flatMap_cons, hspells.utf8EncodeChar_eq (toNat_ofNat hspells.isValidChar), ih hrest]
  fun_induction decodeFrom index bytes generalizing cs with
  | case1 => cases h; rfl
  | case3 index b rest low high hlead ih => exact hstep (.one hlead rfl) ih h
  | case6 index b low high c rest hc hlead hne ih =>
    exact hstep (.two hlead (Decidable.not_not.1 hc) rfl) ih h
  | case9 index b low high c hc d rest hd hlead hne hne' ih =>
    exact hstep (.three hlead (Decidable.not_not.1 hc) (Decidable.not_not.1 hd) rfl) ih h
  | case12 index b length low high hlead h1 c hc h2 d hd h3 e rest he ih =>
    obtain rfl : length = 4 := by grind [length_of_leadByte]
    exact hstep (.four hlead (Decidable.not_not.1 hc) (Decidable.not_not.1 hd)
      (Decidable.not_not.1 he) rfl) ih h
  | _ => cases h

/-- The reader is the inverse of the encoding. -/
theorem decodeUtf8_eq_ok_iff {s : String} :
    decodeUtf8 bytes = .ok s ↔ s.toUTF8.data.toList = bytes := by
  rw [toList_toUTF8, decodeUtf8]
  constructor
  · intro h
    cases hread : decodeFrom 0 bytes with
    | error e => simp [hread, Except.map] at h
    | ok cs =>
      obtain rfl : String.ofList cs = s := by simpa [hread, Except.map] using h
      rw [String.toList_ofList, flatMap_of_decodeFrom hread]
  · rintro rfl
    rw [decodeFrom_flatMap]
    exact congrArg Except.ok String.ofList_toList

theorem isValidUTF8_iff :
    bytes.toByteArray.IsValidUTF8 ↔ ∃ s : String, s.toUTF8.data.toList = bytes := by
  constructor
  · intro h
    exact ⟨String.ofByteArray _ h, List.toList_data_toByteArray⟩
  · rintro ⟨s, rfl⟩
    have hbytes : s.toUTF8.data.toList.toByteArray = s.toUTF8 :=
      ByteArray.ext (by rw [List.data_toByteArray, Array.toArray_toList])
    rw [hbytes]
    exact s.isValidUTF8

/-- It refuses the bytes that encode no text. -/
theorem decodeUtf8_eq_error_iff :
    (∃ e, decodeUtf8 bytes = .error e) ↔ ¬bytes.toByteArray.IsValidUTF8 := by
  rw [isValidUTF8_iff, not_exists]
  cases hread : decodeUtf8 bytes with
  | ok s => simpa using ⟨s, decodeUtf8_eq_ok_iff.1 hread⟩
  | error e =>
    simp only [Except.error.injEq, exists_eq', true_iff]
    intro s hs
    rw [← decodeUtf8_eq_ok_iff, hread] at hs
    cases hs

end Reading

/-! ## Order -/

/-- The bytes of a character tell it from every other one before they end, and its
order with them. -/
theorem utf8EncodeChar_append_lt {c d : Char} (h : c < d) (x y : List UInt8) :
    String.utf8EncodeChar c ++ x < String.utf8EncodeChar d ++ y := by
  have hlt : c.val.toNat < d.val.toNat := h
  have hd : d.val.toNat < 0xd800 ∨ 0xdfff < d.val.toNat ∧ d.val.toNat < 0x110000 := d.valid
  simp only [String.utf8EncodeChar]
  generalize c.val.toNat = m at *
  generalize d.val.toNat = n at *
  -- The digits of a number in base 64 are compared from the first on.
  have digits : ∀ k : Nat, k / 4096 = k / 64 / 64 ∧ k / 262144 = k / 64 / 64 / 64 := by omega
  rw [(digits m).1, (digits m).2, (digits n).1, (digits n).2]
  split_ifs <;> simp only [List.cons_append, List.nil_append, List.cons_lt_cons_iff,
      UInt8.lt_iff_toNat_lt, ← UInt8.toNat_inj, UInt8.toNat_ofNat'] <;> omega

theorem nil_lt_utf8EncodeChar_append (c : Char) (x : List UInt8) :
    [] < String.utf8EncodeChar c ++ x := by
  obtain ⟨b, bytes, hbytes⟩ := List.exists_cons_of_ne_nil (String.utf8EncodeChar_ne_nil (c := c))
  rw [hbytes]
  exact List.nil_lt_cons _ _

/-- Texts are in the order of their bytes. -/
theorem toUTF8_lt_of_lt {s t : String} (h : s < t) :
    s.toUTF8.data.toList < t.toUTF8.data.toList := by
  have hlex : s.toList < t.toList := String.lt_iff.1 h
  rw [toList_toUTF8, toList_toUTF8]
  generalize s.toList = cs at hlex
  generalize t.toList = ds at hlex
  induction hlex with
  | nil => exact nil_lt_utf8EncodeChar_append _ _
  | rel hcd => exact utf8EncodeChar_append_lt hcd _ _
  | cons _ ih => exact List.append_left_lt ih

end DrmSurface.Text
