import DrmSurface.Text.Blank
import DrmSurface.Text.Numeral

/-!
# Numerals, blanks and bytes

What the readers and the writers of texts do to texts of any length.

There are three groups.

* Numerals.  `digitsFrom` is the value of a list of digits without a bound, and
  `numeral_eq_ok_iff` says which lists of characters are numerals.  A number that is
  written down is read back (`digitsFrom_toDigits`, `numeral_paddedHex`).
* Blanks.  `trimList_eq_iff` says which part of a text trimming leaves.
* Bytes: how many a text takes in UTF-8, and which ones an ASCII text consists of.
-/

namespace DrmSurface.Text

/-! ## Numerals -/

/-- The number that the digits make after a number `value`, however large it is.
There is none if a character is no digit. -/
def digitsFrom (radix value : Nat) (cs : List Char) : Option Nat :=
  cs.foldlM (fun value c => (digitValue radix c).map (value * radix + ·)) value

variable {radix value n : Nat} {cs : List Char}

@[simp] theorem digitsFrom_nil : digitsFrom radix value [] = some value := rfl

@[simp] theorem digitsFrom_cons {c : Char} :
    digitsFrom radix value (c :: cs) =
      (digitValue radix c).bind fun d => digitsFrom radix (value * radix + d) cs := by
  cases hdigit : digitValue radix c <;> simp [digitsFrom, hdigit]

theorem digitsFrom_append {ds : List Char} :
    digitsFrom radix value (cs ++ ds) =
      (digitsFrom radix value cs).bind fun value => digitsFrom radix value ds := by
  simp [digitsFrom, List.foldlM_append]

/-- More digits never make a number smaller. -/
theorem le_of_digitsFrom (hradix : 0 < radix) (h : digitsFrom radix value cs = some n) :
    value ≤ n := by
  induction cs generalizing value with
  | nil => exact Nat.le_of_eq (by simpa using h)
  | cons c cs ih =>
    rw [digitsFrom_cons, Option.bind_eq_some_iff] at h
    obtain ⟨d, -, hrest⟩ := h
    calc value ≤ value * radix := Nat.le_mul_of_pos_right value hradix
      _ ≤ value * radix + d := Nat.le_add_right _ _
      _ ≤ n := ih hrest

/-- Since a number only grows with its digits, the check after every digit is a check
of the whole number. -/
theorem accumulate_eq_ok_iff (hradix : 0 < radix) (hvalue : value < UInt32.size) :
    accumulate radix value cs = .ok n ↔ digitsFrom radix value cs = some n ∧ n < UInt32.size := by
  induction cs generalizing value with
  | nil =>
    simp only [accumulate, Except.ok.injEq, digitsFrom_nil, Option.some.injEq]
    constructor
    · rintro rfl
      exact ⟨rfl, hvalue⟩
    · exact fun h => h.1
  | cons c cs ih =>
    rw [accumulate, digitsFrom_cons]
    cases digitValue radix c with
    | none => simp
    | some d =>
      by_cases hsize : value * radix + d < UInt32.size
      · simpa only [hsize, if_true, Option.bind_some] using ih hsize
      · simp only [hsize, if_false, Option.bind_some, reduceCtorEq, false_iff, not_and]
        intro hrest hn
        exact hsize (Nat.lt_of_le_of_lt (le_of_digitsFrom hradix hrest) hn)

theorem digitValue_plus : digitValue radix '+' = none := by
  simp [digitValue]

/-- A numeral is digits for a number below `2 ^ 32`, at least one of them, and perhaps
a sign before them. -/
theorem numeral_eq_ok_iff (hradix : 0 < radix) :
    numeral radix cs = .ok n ↔
      ∃ ds, (cs = ds ∨ cs = '+' :: ds) ∧ ds ≠ [] ∧ digitsFrom radix 0 ds = some n ∧
        n < UInt32.size := by
  have hzero : 0 < UInt32.size := by decide
  -- A list that starts with the sign consists of no digits.
  have hsign : ∀ ds, digitsFrom radix 0 ('+' :: ds) = none := by simp [digitValue_plus]
  unfold numeral
  split
  · simp
  · simp [digitValue_plus]
  · next ds hds =>
    rw [accumulate_eq_ok_iff hradix hzero]
    constructor
    · rintro ⟨hvalue, hn⟩
      exact ⟨ds, .inr rfl, fun h => hds (by rw [h]), hvalue, hn⟩
    · rintro ⟨es, rfl | hes, -, hvalue, hn⟩
      · exact absurd hvalue (by simp [hsign])
      · obtain rfl : ds = es := by simpa using hes
        exact ⟨hvalue, hn⟩
  · next hne _ hplus =>
    rw [accumulate_eq_ok_iff hradix hzero]
    constructor
    · rintro ⟨hvalue, hn⟩
      exact ⟨cs, .inl rfl, hne, hvalue, hn⟩
    · rintro ⟨ds, rfl | rfl, -, hvalue, hn⟩
      · exact ⟨hvalue, hn⟩
      · exact absurd rfl (hplus ds)

theorem digitValue_digitChar {d : Nat} (hd : d < radix) (hradix : radix ≤ 16) :
    digitValue radix d.digitChar = some d := by
  have hvalue : ∀ d < 16, digitValue 16 d.digitChar = some d := by decide
  have h16 : (digitValue 16 d.digitChar).filter (· < radix) = digitValue radix d.digitChar := by
    simp only [digitValue, Option.filter_filter]
    congr 1
    funext e
    simp only [← Bool.decide_and]
    congr 1
    exact propext ⟨fun h => h.2, fun h => ⟨by omega, h⟩⟩
  rw [← h16, hvalue d (by omega)]
  simp [hd]

/-- The digits that a number is written with make the number again. -/
theorem digitsFrom_toDigits (hradix : 1 < radix) (h16 : radix ≤ 16) (n : Nat) :
    digitsFrom radix 0 (Nat.toDigits radix n) = some n := by
  induction n using Nat.strongRecOn with
  | ind n ih =>
    rw [Nat.toDigits_eq_if hradix]
    split
    case isTrue hn => simp [digitValue_digitChar hn h16]
    case isFalse hn =>
      have hdiv : n / radix < n := Nat.div_lt_self (by omega) hradix
      have hmod : n % radix < radix := Nat.mod_lt n (by omega)
      simp [digitsFrom_append, ih _ hdiv, digitValue_digitChar hmod h16, Nat.div_add_mod']

theorem digitsFrom_replicate_zero (hradix : 0 < radix) (k : Nat) :
    digitsFrom radix 0 (List.replicate k '0') = some 0 := by
  have hzero : digitValue radix '0' = some 0 := by simp [digitValue, hradix]
  induction k with
  | zero => rfl
  | succ k ih => simp [List.replicate_succ, hzero, ih]

theorem toList_paddedHex (n : Nat) :
    (paddedHex n).toList =
      List.replicate (8 - (Nat.toDigits 16 n).length) '0' ++ Nat.toDigits 16 n := by
  simp [paddedHex]

/-- Leading zeros do not change the number that the digits make. -/
theorem digitsFrom_paddedHex (n : Nat) : digitsFrom 16 0 (paddedHex n).toList = some n := by
  rw [toList_paddedHex, digitsFrom_append, digitsFrom_replicate_zero (by decide)]
  exact digitsFrom_toDigits (by decide) (by decide) n

theorem numeral_paddedHex (hn : n < UInt32.size) : numeral 16 (paddedHex n).toList = .ok n := by
  refine (numeral_eq_ok_iff (by decide)).2 ⟨_, .inl rfl, ?_, digitsFrom_paddedHex n, hn⟩
  simp [toList_paddedHex, Nat.toDigits_ne_nil]

theorem length_paddedHex (n : Nat) : 8 ≤ (paddedHex n).length := by
  rw [← String.length_toList, toList_paddedHex, List.length_append, List.length_replicate]
  omega

/-! ## Blanks -/

/-- What is left of a list begins where the characters to drop are over. -/
theorem dropWhile_eq_iff {α : Type} {p : α → Bool} {l rest : List α} :
    l.dropWhile p = rest ↔
      ∃ dropped, l = dropped ++ rest ∧ (∀ a ∈ dropped, p a) ∧ ∀ a ∈ rest.head?, p a = false := by
  constructor
  · rintro rfl
    refine ⟨l.takeWhile p, List.takeWhile_append_dropWhile.symm, ?_, ?_⟩
    · exact fun a ha => List.all_eq_true.1 (List.all_takeWhile (l := l)) a ha
    · intro a ha
      simpa [Option.mem_def.1 ha] using List.head?_dropWhile_not p l
  · rintro ⟨dropped, rfl, hdropped, hrest⟩
    rw [List.dropWhile_append_of_pos hdropped]
    cases rest with
    | nil => rfl
    | cons a rest => simp [hrest a rfl]

/-- A part of a text without the blanks around it. -/
def IsTrimmed (cs core : List Char) : Prop :=
  ∃ before after, cs = before ++ core ++ after ∧ (∀ c ∈ before ++ after, isBlank c) ∧
    (∀ c ∈ core.head?, isBlank c = false) ∧ ∀ c ∈ core.getLast?, isBlank c = false

theorem trimList_eq_iff {cs core : List Char} : trimList cs = core ↔ IsTrimmed cs core := by
  have hends : trimList cs = core ↔
      (cs.dropWhile isBlank).reverse.dropWhile isBlank = core.reverse := by
    rw [trimList, List.reverse_eq_iff]
  rw [hends, dropWhile_eq_iff, List.head?_reverse]
  constructor
  · rintro ⟨after, hafter, hblank, hlast⟩
    rw [List.reverse_eq_iff, List.reverse_append, List.reverse_reverse, dropWhile_eq_iff]
      at hafter
    obtain ⟨before, rfl, hbefore, hhead⟩ := hafter
    refine ⟨before, after.reverse, by rw [List.append_assoc], ?_, ?_, hlast⟩
    · intro c hc
      exact (List.mem_append.1 hc).elim (hbefore c) fun hc => hblank c (List.mem_reverse.1 hc)
    · intro c hc
      cases core with
      | nil => cases hc
      | cons d core => exact hhead c hc
  · rintro ⟨before, after, rfl, hblank, hhead, hlast⟩
    have hbefore : ∀ c ∈ before, isBlank c := fun c hc => hblank c (List.mem_append_left _ hc)
    have hafter : ∀ c ∈ after, isBlank c := fun c hc => hblank c (List.mem_append_right _ hc)
    rw [List.append_assoc, List.dropWhile_append_of_pos hbefore]
    cases core with
    | nil =>
      -- There is nothing but blanks, and they all go at the first end.
      have hnone : after.dropWhile isBlank = [] :=
        dropWhile_eq_iff.2 ⟨after, (List.append_nil after).symm, hafter, by simp⟩
      rw [List.nil_append, hnone]
      exact ⟨[], rfl, by simp, hlast⟩
    | cons d core =>
      have hd : isBlank d = false := hhead d rfl
      rw [List.cons_append, List.dropWhile_cons_of_neg (by simp [hd])]
      exact ⟨after.reverse, by simp, fun c hc => hafter c (List.mem_reverse.1 hc), hlast⟩

/-- A text without blanks is left as it is. -/
theorem trimList_eq_self {cs : List Char} (h : ∀ c ∈ cs, isBlank c = false) : trimList cs = cs := by
  refine trimList_eq_iff.2 ⟨[], [], by simp, by simp, fun c hc => ?_, fun c hc => ?_⟩
  · exact h c (List.mem_of_mem_head? hc)
  · exact h c (List.mem_of_getLast? hc)

theorem trim_eq_self {s : String} (h : ∀ c ∈ s.toList, isBlank c = false) : trim s = s := by
  rw [trim, trimList_eq_self h, String.ofList_toList]

/-! ## Bytes -/

theorem toList_toUTF8 (s : String) :
    s.toUTF8.data.toList = s.toList.flatMap String.utf8EncodeChar := by
  have hencode : s.toUTF8 = s.toList.utf8Encode := String.utf8Encode_toList.symm
  rw [hencode, List.utf8Encode, List.toList_data_toByteArray]

theorem length_toUTF8 (s : String) : s.toUTF8.data.toList.length = s.utf8ByteSize :=
  Array.length_toList

/-- A character takes one byte at least. -/
theorem length_le_utf8ByteSize (s : String) : s.length ≤ s.utf8ByteSize := by
  rw [← length_toUTF8, toList_toUTF8, ← String.length_toList]
  induction s.toList with
  | nil => simp
  | cons c cs ih =>
    have hc : 1 ≤ (String.utf8EncodeChar c).length := by
      rw [String.length_utf8EncodeChar]
      exact Char.utf8Size_pos c
    simp only [List.flatMap_cons, List.length_append, List.length_cons]
    omega

theorem toNat_ofNat {n : Nat} (h : n.isValidChar) : (Char.ofNat n).toNat = n := by
  rw [Char.ofNat, dif_pos h]
  rfl

theorem toNat_ofNat_of_ascii {b : UInt8} (h : b < 0x80) : (Char.ofNat b.toNat).toNat = b.toNat := by
  have hb : b.toNat < 0x80 := h
  exact toNat_ofNat (.inl (by omega))

/-- A visible ASCII character is no blank. -/
theorem isBlank_ofNat_of_visible {b : UInt8} (h : 0x20 < b) (h' : b ≤ 0x7e) :
    isBlank (Char.ofNat b.toNat) = false := by
  have hlt : 0x20 < b.toNat := h
  have hle : b.toNat ≤ 0x7e := h'
  have hnat : (Char.ofNat b.toNat).toNat = b.toNat :=
    toNat_ofNat_of_ascii (UInt8.lt_of_le_of_lt h' (by decide))
  simp only [isBlank, hnat, Bool.or_eq_false_iff, Bool.and_eq_false_iff, decide_eq_false_iff_not,
    beq_eq_false_iff_ne]
  omega

/-- An ASCII text consists of the bytes that its characters are the codes of. -/
theorem toUTF8_ofList_of_ascii {bytes : List UInt8} (h : ∀ b ∈ bytes, b < 0x80) :
    (String.ofList (bytes.map fun b => Char.ofNat b.toNat)).toUTF8.data.toList = bytes := by
  rw [toList_toUTF8, String.toList_ofList]
  induction bytes with
  | nil => rfl
  | cons b bytes ih =>
    have hb : b.toNat < 0x80 := h b (by simp)
    have hchar : String.utf8EncodeChar (Char.ofNat b.toNat) = [b] := by
      have hval : (Char.ofNat b.toNat).val.toNat = b.toNat :=
        toNat_ofNat_of_ascii (h b (by simp))
      simp [String.utf8EncodeChar, hval, show b.toNat ≤ 127 by omega]
    rw [List.map_cons, List.flatMap_cons, hchar, ih fun b hb => h b (by simp [hb])]
    rfl

end DrmSurface.Text
