import DrmSurface.Probe.Options
import DrmSurface.Proofs.Text
import Mathlib.Algebra.Group.Nat.Defs
import Mathlib.Data.List.Nodup
import Mathlib.Logic.Function.Basic

/-!
# The texts of a format code

A code is a tag of four bytes, it is shown as a text, and a text is read as the name
or as the tag of a format.  The names and the two tables of formats are kept by hand;
still none of them misses a format that another one has, and no format hides another.

There are four groups.

* Tags.  A code and its four bytes determine each other.
* Display.  Different codes are shown differently, and a tag that can be printed is
  read back.
* Tables.  The names are different from one another, and so are the formats.
  `resolved_iff_known` says that the tables have the formats with a name and no others.
* Readings.  `parseFormat_eq_ok_iff` says what a text is read as, and
  `text_forms_faithful` puts everything together.
-/

namespace DrmSurface.Fourcc

open Text

/-! ## Tags -/

theorem eq_of_toNat_eq {f g : Fourcc} (h : f.code.toNat = g.code.toNat) : f = g := by
  cases f
  cases g
  exact congrArg Fourcc.mk (UInt32.toNat_inj.1 h)

theorem toNat_ofBytes (a b c d : UInt8) :
    (ofBytes a b c d).code.toNat =
      a.toNat + 2 ^ 8 * b.toNat + 2 ^ 16 * c.toNat + 2 ^ 24 * d.toNat := by
  have ha := a.toNat_lt
  have hb := b.toNat_lt
  have hc := c.toNat_lt
  have hd := d.toNat_lt
  -- The bytes do not overlap, so that putting them together is adding them up.
  have hor : ∀ k {low high : Nat}, low < 2 ^ k → low ||| high <<< k = low + 2 ^ k * high := by
    intro k low high hlow
    rw [Nat.or_comm, ← Nat.shiftLeft_add_eq_or_of_lt hlow, Nat.shiftLeft_eq, Nat.add_comm,
      Nat.mul_comm]
  have hmod : ∀ {k byte : Nat}, byte * 2 ^ k < 2 ^ 32 → byte <<< k % 2 ^ 32 = byte <<< k := by
    intro k byte hbyte
    rw [Nat.shiftLeft_eq, Nat.mod_eq_of_lt hbyte]
  simp only [ofBytes, UInt32.toNat_or, UInt32.toNat_shiftLeft, UInt8.toNat_toUInt32,
    UInt32.reduceToNat, Nat.reduceMod]
  rw [hmod (by omega), hmod (by omega), hmod (by omega), hor 8 ha, hor 16 (by omega),
    hor 24 (by omega)]

/-- The bytes of a code are the digits of its number in base 256. -/
theorem toNat_code (f : Fourcc) :
    f.code.toNat = f.code.toUInt8.toNat + 2 ^ 8 * (f.code >>> 8).toUInt8.toNat +
      2 ^ 16 * (f.code >>> 16).toUInt8.toNat + 2 ^ 24 * (f.code >>> 24).toUInt8.toNat := by
  have hcode := f.code.toNat_lt
  simp only [UInt32.toNat_toUInt8, UInt32.toNat_shiftRight, UInt32.reduceToNat, Nat.reduceMod,
    Nat.shiftRight_eq_div_pow]
  omega

@[simp] theorem tag_ofBytes (a b c d : UInt8) : (ofBytes a b c d).tag = [a, b, c, d] := by
  have ha := a.toNat_lt
  have hb := b.toNat_lt
  have hc := c.toNat_lt
  have hd := d.toNat_lt
  simp only [tag, List.cons.injEq, and_true, ← UInt8.toNat_inj, UInt32.toNat_toUInt8,
    UInt32.toNat_shiftRight, UInt32.reduceToNat, Nat.reduceMod, Nat.shiftRight_eq_div_pow,
    toNat_ofBytes]
  refine ⟨?_, ?_, ?_, ?_⟩ <;> omega

theorem tag_injective : Function.Injective tag := by
  intro f g h
  simp only [tag, List.cons.injEq, and_true] at h
  obtain ⟨h0, h1, h2, h3⟩ := h
  apply eq_of_toNat_eq
  rw [toNat_code f, toNat_code g, h0, h1, h2, h3]

/-- A text consists of the four bytes of a code. -/
def IsTag (s : String) (f : Fourcc) : Prop := s.toUTF8.data.toList = f.tag

theorem ofTag?_eq_some_iff {s : String} {f : Fourcc} : ofTag? s = some f ↔ IsTag s f := by
  unfold ofTag? IsTag
  split
  · next a b c d hbytes =>
    rw [hbytes, ← tag_ofBytes a b c d, Option.some.injEq, tag_injective.eq_iff]
  · next hbytes =>
    simp only [reduceCtorEq, false_iff]
    exact fun h => hbytes _ _ _ _ h

theorem ofTag?_eq_none_iff {s : String} : ofTag? s = none ↔ s.utf8ByteSize ≠ 4 := by
  have hlength := length_toUTF8 s
  unfold ofTag?
  split
  · next hbytes =>
    rw [hbytes] at hlength
    simp [← hlength]
  · next hbytes =>
    simp only [true_iff]
    intro hsize
    obtain ⟨a, b, c, d, h⟩ := List.length_eq_four.1 (hlength.trans hsize)
    exact hbytes a b c d h

theorem IsTag.utf8ByteSize_eq {s : String} {f : Fourcc} (h : IsTag s f) : s.utf8ByteSize = 4 := by
  rw [← length_toUTF8, h]
  rfl

/-! ## Display -/

theorem isPrintable_iff {b : UInt8} : isPrintable b ↔ 0x20 ≤ b ∧ b ≤ 0x7e := by
  simp [isPrintable]

theorem lt_of_isPrintable {b : UInt8} (h : isPrintable b) : b < 0x80 := by
  obtain ⟨-, hle⟩ := isPrintable_iff.1 h
  exact UInt8.lt_of_le_of_lt hle (by decide)

theorem display_of_printable {f : Fourcc} (h : ∀ b ∈ f.tag, isPrintable b) :
    f.display = String.ofList (f.tag.map fun b => Char.ofNat b.toNat) := by
  rw [display, if_pos (List.all_eq_true.2 h)]

theorem display_of_not_printable {f : Fourcc} (h : ¬∀ b ∈ f.tag, isPrintable b) :
    f.display = "0x" ++ paddedHex f.code.toNat := by
  rw [display, if_neg (by rwa [List.all_eq_true])]

/-- A code whose bytes can be printed is shown by them. -/
theorem isTag_display {f : Fourcc} (h : ∀ b ∈ f.tag, isPrintable b) : IsTag f.display f := by
  rw [display_of_printable h]
  exact toUTF8_ofList_of_ascii fun b hb => lt_of_isPrintable (h b hb)

/-- Any other code is shown by more than four characters. -/
theorem not_isTag_of_not_printable {f g : Fourcc} (h : ¬∀ b ∈ f.tag, isPrintable b) :
    ¬IsTag f.display g := by
  intro htag
  have hsize := htag.utf8ByteSize_eq
  have hle := length_le_utf8ByteSize f.display
  have hlength := length_paddedHex f.code.toNat
  rw [display_of_not_printable h, String.length_append] at hle
  rw [display_of_not_printable h] at hsize
  omega

theorem display_injective : Function.Injective display := by
  intro f g hdisplay
  by_cases hf : ∀ b ∈ f.tag, isPrintable b
  · by_cases hg : ∀ b ∈ g.tag, isPrintable b
    · exact tag_injective ((isTag_display hf).symm.trans (hdisplay ▸ isTag_display hg))
    · exact absurd (hdisplay ▸ isTag_display hf) (not_isTag_of_not_printable hg)
  · by_cases hg : ∀ b ∈ g.tag, isPrintable b
    · exact absurd (hdisplay ▸ isTag_display hg) (not_isTag_of_not_printable hf)
    · rw [display_of_not_printable hf, display_of_not_printable hg, String.append_right_inj]
        at hdisplay
      have hread : Except.ok f.code.toNat = (Except.ok g.code.toNat : Except NumeralError Nat) := by
        rw [← numeral_paddedHex f.code.toNat_lt, ← numeral_paddedHex g.code.toNat_lt, hdisplay]
      exact eq_of_toNat_eq (Except.ok.inj hread)

/-! ## Tables -/

/-- A text is the name of a format; the case of ASCII letters does not matter. -/
def IsName (s : String) (f : Fourcc) : Prop := ∃ name, (name, f) ∈ known ∧ sameName name s

/-- Some table has the format. -/
def Resolved (f : Fourcc) : Prop := ∃ table : FormatTable, (table.resolve f).isSome

theorem resolved_iff {f : Fourcc} : Resolved f ↔
    (FormatTable.generic.resolve f).isSome ∨ (FormatTable.rockchip.resolve f).isSome := by
  constructor
  · rintro ⟨table, h⟩
    cases table with
    | generic => exact .inl h
    | rockchip => exact .inr h
  · rintro (h | h)
    · exact ⟨.generic, h⟩
    · exact ⟨.rockchip, h⟩

instance (f : Fourcc) : Decidable (Resolved f) := decidable_of_iff' _ resolved_iff

/-- In a table whose keys are different, a search finds the entry with the key. -/
theorem find?_eq_some_iff_of_nodup {α β : Type} [DecidableEq β] {key : α → β} {l : List α}
    (h : (l.map key).Nodup) {k : β} {a : α} :
    (l.find? fun x => key x = k) = some a ↔ a ∈ l ∧ key a = k := by
  constructor
  · intro hfind
    exact ⟨List.mem_of_find?_eq_some hfind, by simpa using List.find?_some hfind⟩
  · rintro ⟨hmem, rfl⟩
    induction l with
    | nil => simp at hmem
    | cons x l ih =>
      rw [List.map_cons, List.nodup_cons] at h
      obtain rfl | hrest := List.mem_cons.1 hmem
      · simp
      · have hne : key x ≠ key a := fun hkey => h.1 (hkey ▸ List.mem_map_of_mem hrest)
        simpa [hne] using ih h.2 hrest

/-- No two names agree up to the case of letters. -/
theorem nodup_names : (known.map fun entry => entry.1.toList.map Char.toLower).Nodup := by
  decide

/-- No format has two names. -/
theorem nodup_formats : (known.map (·.2)).Nodup := by
  decide

theorem ofName?_eq_some_iff {s : String} {f : Fourcc} : ofName? s = some f ↔ IsName s f := by
  have hfind : ∀ entry, (known.find? fun entry => sameName entry.1 s) = some entry ↔
      entry ∈ known ∧ sameName entry.1 s := by
    intro entry
    simpa only [sameName, beq_iff_eq, Bool.decide_eq_true, ← beq_eq_decide] using
      find?_eq_some_iff_of_nodup nodup_names (k := s.toList.map Char.toLower) (a := entry)
  simp only [ofName?, Option.map_eq_some_iff, hfind, IsName]
  constructor
  · rintro ⟨⟨name, f⟩, hentry, rfl⟩
    exact ⟨name, hentry⟩
  · rintro ⟨name, hentry⟩
    exact ⟨(name, f), hentry, rfl⟩

theorem name?_eq_some_iff {name : String} {f : Fourcc} :
    f.name? = some name ↔ (name, f) ∈ known := by
  have hfind := @find?_eq_some_iff_of_nodup _ _ _ _ _ nodup_formats f
  simp only [name?, Option.map_eq_some_iff, hfind]
  constructor
  · rintro ⟨⟨name, f⟩, ⟨hmem, rfl⟩, rfl⟩
    exact hmem
  · intro hmem
    exact ⟨(name, f), ⟨hmem, rfl⟩, rfl⟩

theorem resolved_of_known {name : String} {f : Fourcc} (h : (name, f) ∈ known) : Resolved f := by
  have hall : ∀ entry ∈ known, Resolved entry.2 := by decide
  exact hall _ h

/-- The formats that a table lists. -/
def listed : FormatTable → List Fourcc
  | .generic => FormatTable.oneByte ++ FormatTable.twoBytes ++ FormatTable.fourBytes
  | .rockchip => FormatTable.engineFormats.map (·.1)

theorem mem_listed_of_resolve {table : FormatTable} {f : Fourcc}
    (h : (table.resolve f).isSome) : f ∈ listed table := by
  cases table with
  | generic =>
    simp only [FormatTable.resolve, FormatTable.resolveGeneric] at h
    simp only [listed, List.mem_append]
    grind
  | rockchip =>
    simp only [FormatTable.resolve, FormatTable.resolveRockchip, Option.isSome_map,
      List.find?_isSome, decide_eq_true_eq] at h
    obtain ⟨entry, hentry, rfl⟩ := h
    exact List.mem_map_of_mem hentry

theorem exists_known_of_mem_listed {table : FormatTable} {f : Fourcc} (h : f ∈ listed table) :
    ∃ name, (name, f) ∈ known := by
  have hall : ∀ f ∈ listed table, ∃ entry ∈ known, entry.2 = f := by
    cases table <;> decide
  obtain ⟨⟨name, f⟩, hentry, rfl⟩ := hall f h
  exact ⟨name, hentry⟩

/-- The formats that some backend has are the ones with a name. -/
theorem resolved_iff_known {f : Fourcc} : Resolved f ↔ ∃ name, (name, f) ∈ known := by
  constructor
  · rintro ⟨table, h⟩
    exact exists_known_of_mem_listed (mem_listed_of_resolve h)
  · rintro ⟨name, h⟩
    exact resolved_of_known h

/-! ## Readings -/

/-- A name has six characters at least, and a tag has four bytes. -/
theorem IsName.not_isTag {s : String} {f g : Fourcc} (h : IsName s f) : ¬IsTag s g := by
  intro htag
  have hall : ∀ entry ∈ known, 6 ≤ entry.1.toList.length := by decide
  obtain ⟨name, hknown, hsame⟩ := h
  have hlength : (name.toList.map Char.toLower).length = (s.toList.map Char.toLower).length :=
    congrArg List.length (beq_iff_eq.1 hsame)
  rw [List.length_map, List.length_map] at hlength
  have hname : 6 ≤ name.toList.length := hall _ hknown
  have hbytes := length_le_utf8ByteSize s
  rw [← String.length_toList, htag.utf8ByteSize_eq] at hbytes
  omega

/-- A name and a tag do not get into each other's way. -/
theorem ofName?_or_ofTag?_eq_some_iff {s : String} {f : Fourcc} :
    (ofName? s).or (ofTag? s) = some f ↔ IsName s f ∨ IsTag s f := by
  rw [Option.or_eq_some_iff, ofName?_eq_some_iff, ofTag?_eq_some_iff]
  constructor
  · exact Or.imp_right And.right
  · refine Or.imp_right fun htag => ⟨?_, htag⟩
    refine Option.eq_none_iff_forall_ne_some.2 fun g hg => ?_
    exact (ofName?_eq_some_iff.1 hg).not_isTag htag

theorem not_resolved_iff {f : Fourcc} : ¬Resolved f ↔
    (FormatTable.generic.resolve f).isNone ∧ (FormatTable.rockchip.resolve f).isNone := by
  simp [resolved_iff]

theorem parseFormat_eq_ok_iff {s : String} {f : Fourcc} :
    parseFormat s = .ok f ↔ IsName (trim s) f ∨ IsTag (trim s) f ∧ Resolved f := by
  have hread : parseFormat s = .ok f ↔
      (ofName? (trim s)).or (ofTag? (trim s)) = some f ∧ Resolved f := by
    simp only [parseFormat, ← not_resolved_iff]
    cases (ofName? (trim s)).or (ofTag? (trim s)) with
    | none => simp
    | some g =>
      by_cases hg : Resolved g
      · simp only [hg, not_true_eq_false, if_false, Except.ok.injEq, Option.some.injEq]
        exact ⟨fun h => ⟨h, h ▸ hg⟩, And.left⟩
      · simp only [hg, not_false_eq_true, if_true, reduceCtorEq, Option.some.injEq, false_iff]
        exact fun h => hg (h.1 ▸ h.2)
  rw [hread, ofName?_or_ofTag?_eq_some_iff]
  constructor
  · rintro ⟨hname | htag, hresolved⟩
    · exact .inl hname
    · exact .inr ⟨htag, hresolved⟩
  · rintro (⟨name, hknown, hsame⟩ | ⟨htag, hresolved⟩)
    · exact ⟨.inl ⟨name, hknown, hsame⟩, resolved_of_known hknown⟩
    · exact ⟨.inr htag, hresolved⟩

/-- A name is read as its format. -/
theorem parseFormat_of_known {name : String} {f : Fourcc} (h : (name, f) ∈ known) :
    parseFormat name = .ok f := by
  have hall : known.all fun entry => entry.1.toList.all fun c => !isBlank c := by decide
  simp only [List.all_eq_true, Bool.not_eq_true'] at hall
  rw [parseFormat_eq_ok_iff, trim_eq_self (hall _ h)]
  exact .inl ⟨name, h, by simp [sameName]⟩

/-- What is shown of a format with a name is read as the format. -/
theorem parseFormat_display {name : String} {f : Fourcc} (h : (name, f) ∈ known) :
    parseFormat f.display = .ok f := by
  have hall : known.all fun entry => entry.2.tag.all fun b => 0x20 < b && b ≤ 0x7e := by decide
  simp only [List.all_eq_true, Bool.and_eq_true, decide_eq_true_eq] at hall
  have hvisible : ∀ b ∈ f.tag, 0x20 < b ∧ b ≤ 0x7e := hall _ h
  have hprintable : ∀ b ∈ f.tag, isPrintable b := fun b hb =>
    isPrintable_iff.2 ⟨UInt8.le_of_lt (hvisible b hb).1, (hvisible b hb).2⟩
  have hblank : ∀ c ∈ f.display.toList, isBlank c = false := by
    intro c hc
    rw [display_of_printable hprintable, String.toList_ofList, List.mem_map] at hc
    obtain ⟨b, hb, rfl⟩ := hc
    exact isBlank_ofNat_of_visible (hvisible b hb).1 (hvisible b hb).2
  rw [parseFormat_eq_ok_iff, trim_eq_self hblank]
  exact .inr ⟨isTag_display hprintable, resolved_of_known h⟩

/-- A code is recovered from its tag, and from its display if the tag can be printed;
no other text is a tag, and no two codes are displayed alike.  Apart from the blanks
around it, a text is read as a format if and only if it is a name of the format or the
tag of a format that some backend has, and never both.  The names and the tables have
the same formats, and each of them is read from its display and from its name. -/
theorem text_forms_faithful :
    (∀ s f, s.toUTF8.data.toList = f.tag → ofTag? s = some f) ∧
    (∀ s : String, s.utf8ByteSize ≠ 4 → ofTag? s = none) ∧
    Function.Injective display ∧
    (∀ f : Fourcc, (∀ b ∈ f.tag, 0x20 ≤ b ∧ b ≤ 0x7e) → ofTag? f.display = some f) ∧
    (∀ s f, parseFormat s = .ok f ↔ IsName (trim s) f ∨ IsTag (trim s) f ∧ Resolved f) ∧
    (∀ s f g, ¬(IsName s f ∧ IsTag s g)) ∧
    (∀ name f, (name, f) ∈ known → Resolved f) ∧
    (∀ f, Resolved f → parseFormat f.display = .ok f ∧
      ∃ name, f.name? = some name ∧ parseFormat name = .ok f) := by
  refine ⟨?tag, ?size, display_injective, ?display, ?parse, ?readings, ?names, ?formats⟩
  case tag => exact fun s f h => ofTag?_eq_some_iff.2 h
  case size => exact fun s h => ofTag?_eq_none_iff.2 h
  case display =>
    intro f h
    exact ofTag?_eq_some_iff.2 (isTag_display fun b hb => isPrintable_iff.2 (h b hb))
  case parse => exact fun s f => parseFormat_eq_ok_iff
  case readings => exact fun s f g h => h.1.not_isTag h.2
  case names => exact fun name f h => resolved_of_known h
  case formats =>
    intro f h
    obtain ⟨name, hknown⟩ := resolved_iff_known.1 h
    exact ⟨parseFormat_display hknown, name, name?_eq_some_iff.2 hknown,
      parseFormat_of_known hknown⟩

/-- Among others, a text of one character and two bytes is no tag, a tag with spaces in
it is displayed, and a name in small letters with an em space before it is read. -/
theorem text_forms_faithful_sample :
    ofTag? "XR24" = some xrgb8888 ∧ ofTag? "é" = none ∧
    ofTag? (display ⟨0x20382052⟩) = some ⟨0x20382052⟩ ∧
    parseFormat "\u2003rgb565\n" = .ok rgb565 ∧ Resolved rgb888 ∧
    parseFormat rgb888.display = .ok rgb888 := by
  obtain ⟨htag, hsize, -, hdisplay, hparse, -, hnames, hformats⟩ := text_forms_faithful
  have hprintable : (tag ⟨0x20382052⟩).all fun b => 0x20 ≤ b && b ≤ 0x7e := by decide
  simp only [List.all_eq_true, Bool.and_eq_true, decide_eq_true_eq] at hprintable
  refine ⟨htag _ _ (by decide), hsize _ (by decide), hdisplay _ hprintable, ?_,
    hnames "RGB888" _ (by decide), (hformats _ (by decide)).1⟩
  exact (hparse _ _).2 (.inl ⟨"RGB565", by decide, by decide⟩)

end DrmSurface.Fourcc
