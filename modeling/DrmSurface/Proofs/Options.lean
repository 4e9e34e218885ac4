import DrmSurface.Probe.Report
import DrmSurface.Probe.Options
import DrmSurface.Proofs.Text
import Mathlib.Data.List.Forall2
import Mathlib.Data.Nat.Digits.Defs

/-!
# The grammar of sizes and colours

Which texts are read as a size or as a colour, and as which one.  The grammar is
written down without the readers: a numeral is a list of characters that stand for
digits, with the number that the digits have in their radix, however large.

There are three groups.

* Numerals.  `IsNumeral` is the grammar, and `numeral_eq_ok_iff_isNumeral` says that
  the reader accepts the numerals below `2 ^ 32` and nothing else.
* Sizes and colours.  `parseSize_eq_ok_iff` and `parseColor_eq_ok_iff` say the same of
  whole texts.
* Printing.  A size and a colour that are written down are read back.
-/

namespace DrmSurface

namespace Text

/-! ## Numerals -/

/-- A character stands for a digit of a radix.  From ten on the digits are letters,
in either case. -/
def IsDigit (radix : Nat) (c : Char) (d : Nat) : Prop :=
  d < radix ∧ (c = d.digitChar ∨ c = d.digitChar.toUpper)

/-- A text is a numeral: perhaps a sign and then digits, at least one of them.  They
have the number `n`, the first digit being the highest. -/
def IsNumeral (radix : Nat) (cs : List Char) (n : Nat) : Prop :=
  ∃ written digits, (cs = written ∨ cs = '+' :: written) ∧ written ≠ [] ∧
    List.Forall₂ (IsDigit radix) written digits ∧ Nat.ofDigits radix digits.reverse = n

variable {radix value n : Nat} {cs : List Char} {c : Char} {d : Nat}

theorem toNat_digitChar (hd : d < 16) :
    d.digitChar.toNat = if d < 10 then d + 48 else d + 87 := by
  have hall : ∀ d < 16, d.digitChar.toNat = if d < 10 then d + 48 else d + 87 := by decide
  exact hall d hd

theorem toNat_toUpper_digitChar (hd : d < 16) :
    d.digitChar.toUpper.toNat = if d < 10 then d + 48 else d + 55 := by
  have hall : ∀ d < 16, d.digitChar.toUpper.toNat = if d < 10 then d + 48 else d + 55 := by
    decide
  exact hall d hd

theorem digitValue_eq_some_iff (h16 : radix ≤ 16) :
    digitValue radix c = some d ↔ IsDigit radix c d := by
  simp only [digitValue, IsDigit, Option.filter_eq_some_iff, decide_eq_true_eq,
    ← Char.toNat_inj]
  constructor
  · rintro ⟨hvalue, hd⟩
    rw [toNat_digitChar (by omega), toNat_toUpper_digitChar (by omega)]
    grind
  · rintro ⟨hd, hc⟩
    rw [toNat_digitChar (by omega), toNat_toUpper_digitChar (by omega)] at hc
    grind

/-- The digits after a number `value` shift it by their places. -/
theorem digitsFrom_eq_some_iff (h16 : radix ≤ 16) :
    digitsFrom radix value cs = some n ↔
      ∃ digits, List.Forall₂ (IsDigit radix) cs digits ∧
        value * radix ^ cs.length + Nat.ofDigits radix digits.reverse = n := by
  induction cs generalizing value with
  | nil => simp
  | cons c cs ih =>
    simp only [digitsFrom_cons, Option.bind_eq_some_iff, digitValue_eq_some_iff h16, ih,
      List.forall₂_cons_left_iff]
    have hplaces : ∀ {d : Nat} {digits : List Nat}, List.Forall₂ (IsDigit radix) cs digits →
        value * radix ^ (c :: cs).length + Nat.ofDigits radix (d :: digits).reverse =
          (value * radix + d) * radix ^ cs.length + Nat.ofDigits radix digits.reverse := by
      intro d digits hdigits
      rw [List.reverse_cons, Nat.ofDigits_append, Nat.ofDigits_singleton, List.length_reverse,
        ← hdigits.length_eq, List.length_cons]
      ring
    constructor
    · rintro ⟨d, hd, digits, hdigits, rfl⟩
      exact ⟨d :: digits, ⟨d, digits, hd, hdigits, rfl⟩, hplaces hdigits⟩
    · rintro ⟨_, ⟨d, digits, hd, hdigits, rfl⟩, rfl⟩
      exact ⟨d, hd, digits, hdigits, (hplaces hdigits).symm⟩

theorem isNumeral_iff (h16 : radix ≤ 16) :
    IsNumeral radix cs n ↔
      ∃ written, (cs = written ∨ cs = '+' :: written) ∧ written ≠ [] ∧
        digitsFrom radix 0 written = some n := by
  simp only [digitsFrom_eq_some_iff h16, Nat.zero_mul, Nat.zero_add, IsNumeral]
  constructor
  · rintro ⟨written, digits, hsign, hne, hdigits⟩
    exact ⟨written, hsign, hne, digits, hdigits⟩
  · rintro ⟨written, hsign, hne, digits, hdigits⟩
    exact ⟨written, digits, hsign, hne, hdigits⟩

/-- The reader accepts the numerals below `2 ^ 32`, with the number that they have. -/
theorem numeral_eq_ok_iff_isNumeral (hradix : 0 < radix) (h16 : radix ≤ 16) :
    numeral radix cs = .ok n ↔ IsNumeral radix cs n ∧ n < UInt32.size := by
  rw [numeral_eq_ok_iff hradix, isNumeral_iff h16]
  constructor
  · rintro ⟨written, hsign, hne, hvalue, hn⟩
    exact ⟨⟨written, hsign, hne, hvalue⟩, hn⟩
  · rintro ⟨⟨written, hsign, hne, hvalue⟩, hn⟩
    exact ⟨written, hsign, hne, hvalue, hn⟩

/-- A numeral has one number only. -/
theorem IsNumeral.unique {m : Nat} (h16 : radix ≤ 16) (hm : IsNumeral radix cs m)
    (hn : IsNumeral radix cs n) : m = n := by
  have hsign : ∀ {written}, digitsFrom radix 0 ('+' :: written) = none := by
    simp [digitValue_plus]
  obtain ⟨ms, hms, -, hvalue⟩ := (isNumeral_iff h16).1 hm
  obtain ⟨ns, hns, -, hvalue'⟩ := (isNumeral_iff h16).1 hn
  have hsame : ms = ns := by
    rcases hms with rfl | rfl <;> rcases hns with h | h
    · exact h
    · rw [h, hsign] at hvalue
      cases hvalue
    · rw [← h, hsign] at hvalue'
      cases hvalue'
    · exact (List.cons.inj h).2
  rw [hsame, hvalue'] at hvalue
  exact (Option.some.inj hvalue).symm

/-- A character that stands for a digit is no blank. -/
theorem IsDigit.not_blank (h16 : radix ≤ 16) (h : IsDigit radix c d) : isBlank c = false := by
  obtain ⟨hd, hc⟩ := h
  have hall : ∀ d < 16, isBlank d.digitChar = false ∧ isBlank d.digitChar.toUpper = false := by
    decide
  obtain ⟨hlower, hupper⟩ := hall d (by omega)
  rcases hc with rfl | rfl
  · exact hlower
  · exact hupper

/-- The characters of digits stand for digits. -/
theorem isDigit_of_mem (h16 : radix ≤ 16) (h : digitsFrom radix value cs = some n)
    (hc : c ∈ cs) : ∃ d, IsDigit radix c d := by
  obtain ⟨digits, hdigits, -⟩ := (digitsFrom_eq_some_iff h16).1 h
  clear h
  induction hdigits with
  | nil => cases hc
  | cons hd _ ih =>
    rcases List.mem_cons.1 hc with rfl | hc
    · exact ⟨_, hd⟩
    · exact ih hc

end Text

open Text

/-! ## Sizes and colours -/

section Readers

variable {s : String} {cs : List Char} {w h v : UInt32}

/-- A reader that makes a word of a numeral makes the word of its number. -/
theorem numeral_word_iff {ε : Type} {f : NumeralError → ε} {radix : Nat}
    (hradix : 0 < radix) (h16 : radix ≤ 16) :
    (match numeral radix cs with
      | .ok n => .ok (UInt32.ofNat n)
      | .error e => .error (f e)) = Except.ok v ↔ IsNumeral radix cs v.toNat := by
  have hgrammar : ∀ {n}, numeral radix cs = .ok n ↔ IsNumeral radix cs n ∧ n < UInt32.size :=
    numeral_eq_ok_iff_isNumeral hradix h16
  constructor
  · intro hread
    cases hn : numeral radix cs with
    | error e => simp [hn] at hread
    | ok n =>
      obtain ⟨hnumeral, hsize⟩ := hgrammar.1 hn
      obtain rfl : UInt32.ofNat n = v := by simpa [hn] using hread
      rwa [UInt32.toNat_ofNat_of_lt' hsize]
  · intro hnumeral
    rw [hgrammar.2 ⟨hnumeral, v.toNat_lt⟩]
    exact congrArg Except.ok UInt32.ofNat_toNat

theorem parseDecimal_eq_ok_iff : parseDecimal cs = .ok v ↔ IsNumeral 10 (trimList cs) v.toNat := by
  rw [← numeral_word_iff (f := id) (by decide) (by decide), parseDecimal]
  cases numeral 10 (trimList cs) <;> rfl

/-- A text is a size: two positive numerals with an `x` between them.  Blanks may stand
around each of them. -/
def IsSize (s : String) (w h : UInt32) : Prop :=
  ∃ before after, s.toList = before ++ 'x' :: after ∧ 'x' ∉ before ∧
    IsNumeral 10 (trimList before) w.toNat ∧ IsNumeral 10 (trimList after) h.toNat ∧
    0 < w ∧ 0 < h

theorem parseSize_eq_ok_iff : parseSize s = .ok ⟨w, h⟩ ↔ IsSize s w h := by
  have hread : parseSize s = .ok ⟨w, h⟩ ↔ ∃ before after,
      splitOnce 'x' s.toList = some (before, after) ∧
        parseDecimal before = .ok w ∧ parseDecimal after = .ok h ∧ 0 < w ∧ 0 < h := by
    unfold parseSize
    cases splitOnce 'x' s.toList with
    | none => simp
    | some parts =>
      obtain ⟨before, after⟩ := parts
      cases hbefore : parseDecimal before with
      | error e => simp [hbefore]
      | ok width =>
        cases hafter : parseDecimal after with
        | error e => simp [hbefore, hafter]
        | ok height =>
          by_cases hzero : width = 0 ∨ height = 0 <;>
            simp [hbefore, hafter, hzero, UInt32.pos_iff_ne_zero] <;> grind
  rw [hread]
  simp only [splitOnce_eq_some_iff, parseDecimal_eq_ok_iff, IsSize, and_assoc]

/-- A text is marked as hexadecimal, and `digits` come after the mark. -/
def IsMarked (cs digits : List Char) : Prop :=
  cs = '0' :: 'x' :: digits ∨ cs = '0' :: 'X' :: digits

theorem IsMarked.unique {ds es : List Char} (hd : IsMarked cs ds) (he : IsMarked cs es) :
    ds = es := by
  rcases hd with rfl | rfl <;> rcases he with h | h <;> simp_all

theorem parseColor_of_marked {digits : List Char} (hmark : IsMarked (trimList s.toList) digits) :
    parseColor s = .ok v ↔ IsNumeral 16 digits v.toNat := by
  unfold parseColor
  rcases hmark with htext | htext <;> rw [htext] <;>
    exact numeral_word_iff (by decide) (by decide)

theorem parseColor_of_not_marked (hmark : ∀ digits, ¬IsMarked (trimList s.toList) digits) :
    parseColor s = .ok v ↔ IsNumeral 10 (trimList s.toList) v.toNat := by
  simp only [parseColor]
  split
  · next digits htext => exact absurd (.inl htext) (hmark digits)
  · next digits htext => exact absurd (.inr htext) (hmark digits)
  · exact numeral_word_iff (by decide) (by decide)

/-- A text is a colour: a hexadecimal numeral after a mark, or without a mark a decimal
numeral.  Blanks may stand around all of it. -/
def IsColor (s : String) (v : UInt32) : Prop :=
  (∃ digits, IsMarked (trimList s.toList) digits ∧ IsNumeral 16 digits v.toNat) ∨
    (∀ digits, ¬IsMarked (trimList s.toList) digits) ∧ IsNumeral 10 (trimList s.toList) v.toNat

theorem parseColor_eq_ok_iff : parseColor s = .ok v ↔ IsColor s v := by
  by_cases hmark : ∃ digits, IsMarked (trimList s.toList) digits
  · obtain ⟨digits, hmark⟩ := hmark
    rw [parseColor_of_marked hmark]
    constructor
    · exact fun hnumeral => .inl ⟨digits, hmark, hnumeral⟩
    · rintro (⟨es, hes, hnumeral⟩ | ⟨hno, -⟩)
      · rwa [hmark.unique hes]
      · exact absurd hmark (hno digits)
  · rw [not_exists] at hmark
    rw [parseColor_of_not_marked hmark]
    constructor
    · exact fun hnumeral => .inr ⟨hmark, hnumeral⟩
    · rintro (⟨digits, hdigits, -⟩ | ⟨-, hnumeral⟩)
      · exact absurd hdigits (hmark digits)
      · exact hnumeral

end Readers

/-! ## Printing -/

section Printing

variable {radix n : Nat} {c : Char} {w h v : UInt32}

theorem isDigit_of_mem_toDigits (hradix : 1 < radix) (h16 : radix ≤ 16)
    (hc : c ∈ Nat.toDigits radix n) : ∃ d, IsDigit radix c d :=
  isDigit_of_mem h16 (digitsFrom_toDigits hradix h16 n) hc

theorem isNumeral_toDigits (hradix : 1 < radix) (h16 : radix ≤ 16) (n : Nat) :
    IsNumeral radix (Nat.toDigits radix n) n :=
  (isNumeral_iff h16).2 ⟨_, .inl rfl, Nat.toDigits_ne_nil, digitsFrom_toDigits hradix h16 n⟩

theorem trimList_toDigits (hradix : 1 < radix) (h16 : radix ≤ 16) (n : Nat) :
    trimList (Nat.toDigits radix n) = Nat.toDigits radix n := by
  refine trimList_eq_self fun c hc => ?_
  obtain ⟨d, hd⟩ := isDigit_of_mem_toDigits hradix h16 hc
  exact hd.not_blank h16

/-- Decimal digits contain neither the separator of a size nor the mark of a colour. -/
theorem not_isDigit_x (d : Nat) : ¬IsDigit 10 'x' d ∧ ¬IsDigit 10 'X' d := by
  have hall : ∀ d < 10, ('x' ≠ d.digitChar ∧ 'x' ≠ d.digitChar.toUpper) ∧
      'X' ≠ d.digitChar ∧ 'X' ≠ d.digitChar.toUpper := by decide
  constructor
  · rintro ⟨hd, hc⟩
    exact hc.elim (hall d hd).1.1 (hall d hd).1.2
  · rintro ⟨hd, hc⟩
    exact hc.elim (hall d hd).2.1 (hall d hd).2.2

theorem toList_toString (v : UInt32) : (toString v).toList = Nat.toDigits 10 v.toNat := by
  rw [show toString v = v.toNat.repr from rfl, Nat.toList_repr]

/-- A size that is written down is read back. -/
theorem parseSize_display (hw : 0 < w) (hh : 0 < h) : parseSize s!"{w}x{h}" = .ok ⟨w, h⟩ := by
  have hdecimal : ∀ n, IsNumeral 10 (trimList (Nat.toDigits 10 n)) n := by
    intro n
    rw [trimList_toDigits (by decide) (by decide)]
    exact isNumeral_toDigits (by decide) (by decide) n
  refine parseSize_eq_ok_iff.2
    ⟨Nat.toDigits 10 w.toNat, Nat.toDigits 10 h.toNat, ?_, ?_, hdecimal _, hdecimal _, hw, hh⟩
  · simp only [String.toList_append, toList_toString, List.append_assoc]
    rfl
  · intro hx
    obtain ⟨d, hd⟩ := isDigit_of_mem_toDigits (by decide) (by decide) hx
    exact (not_isDigit_x d).1 hd

/-- A colour that is written in decimal is read back. -/
theorem parseColor_toString (v : UInt32) : parseColor (toString v) = .ok v := by
  have htext : trimList (toString v).toList = Nat.toDigits 10 v.toNat := by
    rw [toList_toString, trimList_toDigits (by decide) (by decide)]
  have hmark : ∀ digits, ¬IsMarked (trimList (toString v).toList) digits := by
    rw [htext]
    rintro digits (hdigits | hdigits)
    · have hx : 'x' ∈ Nat.toDigits 10 v.toNat := by simp [hdigits]
      obtain ⟨d, hd⟩ := isDigit_of_mem_toDigits (by decide) (by decide) hx
      exact (not_isDigit_x d).1 hd
    · have hx : 'X' ∈ Nat.toDigits 10 v.toNat := by simp [hdigits]
      obtain ⟨d, hd⟩ := isDigit_of_mem_toDigits (by decide) (by decide) hx
      exact (not_isDigit_x d).2 hd
  rw [parseColor_of_not_marked hmark, htext]
  exact isNumeral_toDigits (by decide) (by decide) _

/-- A colour that is written in hexadecimal, with its mark, is read back. -/
theorem parseColor_paddedHex (v : UInt32) : parseColor ("0x" ++ paddedHex v.toNat) = .ok v := by
  have htext : trimList ("0x" ++ paddedHex v.toNat).toList =
      '0' :: 'x' :: (paddedHex v.toNat).toList := by
    rw [String.toList_append]
    refine trimList_eq_self fun c hc => ?_
    rcases List.mem_append.1 hc with hc | hc
    · have hmark : c ∈ ['0', 'x'] := hc
      rcases List.mem_pair.1 hmark with rfl | rfl <;> rfl
    · obtain ⟨d, hd⟩ := isDigit_of_mem (by decide) (digitsFrom_paddedHex v.toNat) hc
      exact hd.not_blank (by decide)
  have hmarked : IsMarked (trimList ("0x" ++ paddedHex v.toNat).toList)
      (paddedHex v.toNat).toList := .inl htext
  rw [parseColor_of_marked hmarked]
  exact ((numeral_eq_ok_iff_isNumeral (by decide) (by decide)).1
    (numeral_paddedHex v.toNat_lt)).1

/-- The digits of a word fit into the eight places that they are filled up to. -/
theorem length_paddedHex_word (v : UInt32) : (paddedHex v.toNat).length = 8 := by
  have hdigits : (Nat.toDigits 16 v.toNat).length ≤ 8 :=
    (Nat.length_toDigits_le_iff (by decide) (by decide)).2 v.toNat_lt
  rw [← String.length_toList, toList_paddedHex, List.length_append, List.length_replicate]
  omega

end Printing

/-- A text is read as a size or as a colour if and only if the grammar says so.  The
grammar gives a numeral one number, whatever its length, so no number is taken modulo
the size of a word.  Sizes and colours that are written down, in decimal or as the
report of the probe shows a colour, are read back. -/
theorem sizes_and_colors_exact :
    (∀ s w h, parseSize s = .ok ⟨w, h⟩ ↔ IsSize s w h) ∧
    (∀ s v, parseColor s = .ok v ↔ IsColor s v) ∧
    (∀ cs core, trimList cs = core ↔ IsTrimmed cs core) ∧
    (∀ radix cs m n, radix ≤ 16 → IsNumeral radix cs m → IsNumeral radix cs n → m = n) ∧
    (∀ w h : UInt32, 0 < w → 0 < h → parseSize s!"{w}x{h}" = .ok ⟨w, h⟩) ∧
    (∀ v : UInt32, parseColor (toString v) = .ok v) ∧
    ∀ v pointer, ∃ text, (ReportLine.filled v).text pointer = "filled with 0x" ++ text ∧
      text.length = 8 ∧ parseColor ("0x" ++ text) = .ok v := by
  refine ⟨fun s w h => parseSize_eq_ok_iff, fun s v => parseColor_eq_ok_iff,
    fun cs core => trimList_eq_iff, fun radix cs m n h16 hm hn => hm.unique h16 hn,
    fun w h hw hh => parseSize_display hw hh, parseColor_toString, fun v pointer => ?_⟩
  exact ⟨paddedHex v.toNat, rfl, length_paddedHex_word v, parseColor_paddedHex v⟩

/-- Among others, a size is read with a sign, a leading zero and wide blanks in it, and
`2 ^ 32` is not read as a colour. -/
theorem sizes_and_colors_exact_sample :
    parseSize "\u3000+0640\u2003x480\n" = .ok ⟨640, 480⟩ ∧
    parseColor "\t0X+00fF " = .ok 255 ∧
    (∀ v, parseColor "4294967296" ≠ .ok v) ∧
    parseSize "4294967295x1" = .ok ⟨4294967295, 1⟩ := by
  obtain ⟨hsize, hcolor, -, hunique, hdisplay, -, -⟩ := sizes_and_colors_exact
  have hnumeral : ∀ (digits : List Char) {radix cs n}, radix ≤ 16 →
      (cs = digits ∨ cs = '+' :: digits) → digits ≠ [] → digitsFrom radix 0 digits = some n →
      IsNumeral radix cs n :=
    fun digits _ _ _ h16 hsign hne hvalue => (isNumeral_iff h16).2 ⟨digits, hsign, hne, hvalue⟩
  refine ⟨(hsize _ _ _).2 ⟨"\u3000+0640\u2003".toList, "480\n".toList, rfl, by decide, ?_, ?_,
    by decide, by decide⟩, ?_, ?_, hdisplay 4294967295 1 (by decide) (by decide)⟩
  · exact hnumeral "0640".toList (by decide) (.inr rfl) (by decide) rfl
  · exact hnumeral "480".toList (by decide) (.inl rfl) (by decide) rfl
  · refine (hcolor _ _).2 (.inl ⟨"+00fF".toList, .inr rfl, ?_⟩)
    exact hnumeral "00fF".toList (by decide) (.inr rfl) (by decide) rfl
  · intro v hv
    have hhead : (trimList "4294967296".toList).head? ≠ some '0' := by decide
    rcases (hcolor _ _).1 hv with ⟨digits, hmark | hmark, -⟩ | ⟨-, hread⟩
    · exact absurd (congrArg List.head? hmark) hhead
    · exact absurd (congrArg List.head? hmark) hhead
    · have htoo : v.toNat = 4294967296 := hunique 10 _ _ _ (by decide) hread
        (hnumeral "4294967296".toList (by decide) (.inl rfl) (by decide) rfl)
      have := v.toNat_lt
      omega

end DrmSurface
