import DrmSurface.Geometry
import Mathlib.Algebra.Order.Floor.Div
import Mathlib.Order.Bounds.Basic

/-!
# What a geometry is

`Geometry.compute` and `Geometry.validate` said without their arithmetic.  The
pitch is the least length of a row in whole words, the header rows are the least
number of rows that hold the header, and everything else follows from the two.

There are three groups.

* Rounding.  `pitchFor` and `headerRows` give least elements, and there is no
  pitch exactly if the least length leaves 32 bits.
* Bytes.  The size of a surface never leaves 64 bits, and it is zero for a
  surface without columns, or without any rows.
* Outcomes.  `Geometry.Computed` has those of `Geometry.compute` and
  `Geometry.Validated` those of `Geometry.validate`, each with its condition, and
  `Geometry.compute_and_validate_exact` says so for both tables and all surfaces.
-/

namespace DrmSurface

/-! ## Rounding -/

/-- The lengths that a row may have: whole words that hold its pixels. -/
def RowLengths (width cpp : UInt32) : Set Nat := {n | 4 ∣ n ∧ width.toNat * cpp.toNat ≤ n}

/-- How many rows hold a header. -/
def HeaderRowCounts (headerSize pitch : UInt32) : Set Nat :=
  {n | headerSize.toNat ≤ n * pitch.toNat}

variable {width height cpp headerSize pitch : UInt32} {row : Nat}

theorem toNat_eq_zero_iff {n : UInt32} : n.toNat = 0 ↔ n = 0 := by
  rw [← UInt32.toNat_inj, UInt32.toNat_zero]

theorem toNat_pos_of_ne_zero {n : UInt32} (h : n ≠ 0) : 0 < n.toNat :=
  Nat.pos_of_ne_zero fun hzero => h (toNat_eq_zero_iff.1 hzero)

theorem isLeast_rowLengths :
    IsLeast (RowLengths width cpp) ((width.toNat * cpp.toNat + 3) / 4 * 4) := by
  constructor
  · exact ⟨Nat.dvd_mul_left .., by omega⟩
  · rintro n ⟨⟨k, rfl⟩, hk⟩
    omega

/-- Whether the rounded length fits 32 bits is already decided before the
rounding, since the number of all words is a multiple of four. -/
theorem rounded_lt_iff {n : Nat} : (n + 3) / 4 * 4 < UInt32.size ↔ n + 3 < UInt32.size := by
  rw [UInt32.size]
  omega

/-- The pitch is the least length of a row. -/
theorem pitchFor_eq_some_iff :
    pitchFor width cpp = some pitch ↔ IsLeast (RowLengths width cpp) pitch.toNat := by
  simp only [pitchFor]
  constructor
  · intro h
    split at h
    · rename_i hfits
      cases h
      rw [UInt32.toNat_ofNat_of_lt' (rounded_lt_iff.2 hfits)]
      exact isLeast_rowLengths
    · cases h
  · intro h
    have heq := h.unique isLeast_rowLengths
    have hfits := rounded_lt_iff.1 (heq ▸ pitch.toNat_lt_size)
    rw [if_pos hfits, ← heq, UInt32.ofNat_toNat]

/-- There is no pitch exactly if the least length of a row leaves 32 bits. -/
theorem pitchFor_eq_none_iff (least : IsLeast (RowLengths width cpp) row) :
    pitchFor width cpp = none ↔ UInt32.size ≤ row := by
  rw [least.unique isLeast_rowLengths, ← Nat.not_lt, rounded_lt_iff]
  simp only [pitchFor]
  split
  · rename_i hfits
    exact iff_of_false (by simp) (not_not.2 hfits)
  · rename_i hfits
    exact iff_of_true rfl hfits

theorem toNat_headerRows (hpitch : pitch ≠ 0) :
    (headerRows headerSize pitch).toNat = headerSize.toNat ⌈/⌉ pitch.toNat := by
  have hpos := toNat_pos_of_ne_zero hpitch
  simp only [headerRows, hpitch, or_false]
  split
  · rename_i hheader
    rw [hheader, UInt32.toNat_zero, zero_ceilDiv]
  · -- A row has a byte at least, so there are no more rows than bytes.
    have hle : headerSize.toNat ⌈/⌉ pitch.toNat ≤ headerSize.toNat :=
      (ceilDiv_le_iff_le_mul hpos).2 (Nat.le_mul_of_pos_left _ hpos)
    rw [← Nat.ceilDiv_eq_add_pred_div,
      UInt32.toNat_ofNat_of_lt' (hle.trans_lt headerSize.toNat_lt_size)]

/-- The header rows are as few as hold the header. -/
theorem isLeast_headerRows (hpitch : pitch ≠ 0) :
    IsLeast (HeaderRowCounts headerSize pitch) (headerRows headerSize pitch).toNat := by
  have hpos := toNat_pos_of_ne_zero hpitch
  have hiff : ∀ n, n ∈ HeaderRowCounts headerSize pitch ↔
      (headerRows headerSize pitch).toNat ≤ n := by
    intro n
    rw [toNat_headerRows hpitch, ceilDiv_le_iff_le_mul hpos, Nat.mul_comm]
    rfl
  exact ⟨(hiff _).2 (Nat.le_refl _), fun n hn => (hiff n).1 hn⟩

/-! ## Bytes -/

/-- The header rows hold the header. -/
theorem le_headerRows_mul (hpitch : pitch ≠ 0) :
    headerSize.toNat ≤ (headerRows headerSize pitch).toNat * pitch.toNat :=
  (isLeast_headerRows hpitch).1

/-- Less than one row of the header rows is to spare. -/
theorem headerRows_mul_lt (hpitch : pitch ≠ 0) :
    (headerRows headerSize pitch).toNat * pitch.toNat < headerSize.toNat + pitch.toNat := by
  have hpos := toNat_pos_of_ne_zero hpitch
  have least : IsLeast (HeaderRowCounts headerSize pitch) _ := isLeast_headerRows hpitch
  cases hrows : (headerRows headerSize pitch).toNat with
  | zero => omega
  | succ n =>
    -- One row less does not hold the header.
    have hless : n * pitch.toNat < headerSize.toNat := by
      by_contra hholds
      exact absurd (least.2 (not_lt.1 hholds)) (by omega)
    rw [Nat.succ_mul]
    omega

theorem headerRows_eq_zero_iff (hpitch : pitch ≠ 0) :
    headerRows headerSize pitch = 0 ↔ headerSize = 0 := by
  constructor
  · intro hrows
    have hholds : headerSize.toNat ≤ _ := le_headerRows_mul hpitch
    rw [hrows, UInt32.toNat_zero, Nat.zero_mul] at hholds
    exact toNat_eq_zero_iff.1 (Nat.le_zero.1 hholds)
  · rintro rfl
    simp only [headerRows, true_or, if_true]

/-- The bytes of a surface never leave 64 bits.  Many header rows go with a
short pitch, and all of them take less than a row more than the header. -/
theorem bytes_lt_word :
    (height.toNat + (headerRows headerSize pitch).toNat) * pitch.toNat < UInt64.size := by
  by_cases hpitch : pitch = 0
  · rw [hpitch, UInt32.toNat_zero, Nat.mul_zero]
    decide
  · have hheight : height.toNat + 1 ≤ 2 ^ 32 := height.toNat_lt
    have hpitch' : pitch.toNat ≤ 2 ^ 32 - 1 := Nat.le_pred_of_lt pitch.toNat_lt
    have hheader : headerSize.toNat ≤ 2 ^ 32 - 1 := Nat.le_pred_of_lt headerSize.toNat_lt
    calc (height.toNat + (headerRows headerSize pitch).toNat) * pitch.toNat
        = height.toNat * pitch.toNat + (headerRows headerSize pitch).toNat * pitch.toNat :=
          Nat.add_mul ..
      _ < height.toNat * pitch.toNat + (headerSize.toNat + pitch.toNat) :=
          Nat.add_lt_add_left (headerRows_mul_lt hpitch) _
      _ = (height.toNat + 1) * pitch.toNat + headerSize.toNat := by
          rw [Nat.succ_mul]
          omega
      _ ≤ 2 ^ 32 * (2 ^ 32 - 1) + (2 ^ 32 - 1) :=
          Nat.add_le_add (Nat.mul_le_mul hheight hpitch') hheader
      _ < UInt64.size := by decide

theorem pitch_eq_zero_iff (hcpp : cpp ≠ 0) (least : IsLeast (RowLengths width cpp) pitch.toNat) :
    pitch = 0 ↔ width = 0 := by
  have hrow : width.toNat * cpp.toNat = 0 ↔ width.toNat = 0 :=
    mul_eq_zero_iff_right (toNat_pos_of_ne_zero hcpp).ne'
  rw [← toNat_eq_zero_iff, ← toNat_eq_zero_iff, least.unique isLeast_rowLengths]
  omega

/-- A surface without columns has no bytes, and neither has one without any
rows. -/
theorem bytes_eq_zero_iff (hcpp : cpp ≠ 0) (least : IsLeast (RowLengths width cpp) pitch.toNat) :
    (height.toNat + (headerRows headerSize pitch).toNat) * pitch.toNat = 0 ↔
      width = 0 ∨ height = 0 ∧ headerSize = 0 := by
  rw [← pitch_eq_zero_iff hcpp least]
  by_cases hpitch : pitch = 0
  · refine iff_of_true ?_ (.inl hpitch)
    rw [hpitch, UInt32.toNat_zero, Nat.mul_zero]
  · rw [mul_eq_zero_iff_right (toNat_pos_of_ne_zero hpitch).ne', Nat.add_eq_zero_iff,
      or_iff_right hpitch, toNat_eq_zero_iff, toNat_eq_zero_iff, headerRows_eq_zero_iff hpitch]

/-- A pixel of every format has bytes. -/
theorem FormatTable.cpp_ne_zero {table : FormatTable} {format : Fourcc} {layout : PixelLayout}
    (h : table.resolve format = some layout) : layout.cpp ≠ 0 := by
  cases table with
  | generic =>
    simp only [resolve, resolveGeneric] at h
    split_ifs at h <;> cases h <;> decide
  | rockchip =>
    obtain ⟨entry, hentry, rfl⟩ := Option.map_eq_some_iff.1 h
    have hall : ∀ entry ∈ engineFormats, entry.2.1 ≠ 0 := by decide
    exact hall entry (List.mem_of_find?_eq_some hentry)

/-! ## Outcomes -/

namespace Geometry

variable {table : FormatTable} {desc : SurfaceDesc} {layout : PixelLayout} {g : Geometry}
  {outcome : Except GeometryError Geometry}

/-- A surface without bytes. -/
def Empty (desc : SurfaceDesc) : Prop :=
  desc.width = 0 ∨ desc.height = 0 ∧ desc.headerSize = 0

instance : DecidablePred Empty := fun desc =>
  inferInstanceAs (Decidable (desc.width = 0 ∨ desc.height = 0 ∧ desc.headerSize = 0))

/-- What a geometry of a surface has to be: everything follows from the two
numbers that are as small as can be. -/
structure Exact (table : FormatTable) (desc : SurfaceDesc) (g : Geometry) : Prop where
  layout_eq : table.resolve desc.format = some g.layout
  pitch_least : IsLeast (RowLengths desc.width g.layout.cpp) g.pitch.toNat
  headerRows_least : IsLeast (HeaderRowCounts desc.headerSize g.pitch) g.headerRows.toNat
  offset_eq : g.offset = g.headerRows.toNat * g.pitch.toNat
  size_eq : g.size = (desc.height.toNat + g.headerRows.toNat) * g.pitch.toNat

/-- The outcomes of computing a geometry, each with the surfaces that have it. -/
inductive Computed (table : FormatTable) (desc : SurfaceDesc) :
    Except GeometryError Geometry → Prop where
  | unsupported (format_eq : table.resolve desc.format = none) :
      Computed table desc (.error (.unsupportedFormat desc.format))
  | overflow {layout : PixelLayout} {row : Nat}
      (layout_eq : table.resolve desc.format = some layout)
      (row_least : IsLeast (RowLengths desc.width layout.cpp) row)
      (row_large : UInt32.size ≤ row) :
      Computed table desc (.error (.overflow desc.width desc.height desc.headerSize))
  | zeroSize {layout : PixelLayout} {row : Nat}
      (layout_eq : table.resolve desc.format = some layout)
      (row_least : IsLeast (RowLengths desc.width layout.cpp) row)
      (row_small : row < UInt32.size) (empty : Empty desc) :
      Computed table desc (.error (.zeroSize desc.width desc.height))
  | laid {g : Geometry} (exact : g.Exact table desc) (nonempty : ¬ Empty desc) :
      Computed table desc (.ok g)

/-- The outcomes of validating what the owner of a buffer states: those of
computing the geometry come first, then the pitch is looked at, then the size. -/
inductive Validated (table : FormatTable) (desc : SurfaceDesc) (pitch : UInt32)
    (size? : Option Nat) : Except GeometryError Geometry → Prop where
  | failed {e : GeometryError} (computed : Computed table desc (.error e)) :
      Validated table desc pitch size? (.error e)
  | badPitch {g : Geometry} (computed : Computed table desc (.ok g)) (pitch_ne : pitch ≠ g.pitch) :
      Validated table desc pitch size? (.error (.badPitch pitch g.pitch))
  | badSize {g : Geometry} {size : Nat} (computed : Computed table desc (.ok g))
      (pitch_eq : pitch = g.pitch) (size_stated : size? = some size) (size_ne : size ≠ g.size) :
      Validated table desc pitch size? (.error (.badSize size g.size))
  | valid {g : Geometry} (computed : Computed table desc (.ok g)) (pitch_eq : pitch = g.pitch)
      (size_eq : size? = none ∨ size? = some g.size) :
      Validated table desc pitch size? (.ok g)

theorem compute_of_resolve (h : table.resolve desc.format = none) :
    compute table desc = .error (.unsupportedFormat desc.format) := by
  simp only [compute, h]

/-- A row that leaves 32 bits is the only overflow. -/
theorem compute_of_large (hlayout : table.resolve desc.format = some layout)
    (least : IsLeast (RowLengths desc.width layout.cpp) row) (hrow : UInt32.size ≤ row) :
    compute table desc = .error (.overflow desc.width desc.height desc.headerSize) := by
  simp only [compute, hlayout, (pitchFor_eq_none_iff least).2 hrow]

/-- The geometry of a surface with rows of some length. -/
def ofPitch (desc : SurfaceDesc) (layout : PixelLayout) (pitch : UInt32) : Geometry where
  layout := layout
  pitch := pitch
  headerRows := DrmSurface.headerRows desc.headerSize pitch
  size := (desc.height.toNat + (DrmSurface.headerRows desc.headerSize pitch).toNat) * pitch.toNat
  offset := (DrmSurface.headerRows desc.headerSize pitch).toNat * pitch.toNat

/-- With a pitch, only the bytes decide. -/
theorem compute_of_pitch (hlayout : table.resolve desc.format = some layout)
    (least : IsLeast (RowLengths desc.width layout.cpp) pitch.toNat) :
    compute table desc = if Empty desc then .error (.zeroSize desc.width desc.height)
      else .ok (ofPitch desc layout pitch) := by
  simp only [compute, hlayout, pitchFor_eq_some_iff.2 least, if_neg (Nat.not_le.2 bytes_lt_word)]
  exact if_congr (bytes_eq_zero_iff (FormatTable.cpp_ne_zero hlayout) least) rfl rfl

theorem exact_ofPitch (hlayout : table.resolve desc.format = some layout)
    (least : IsLeast (RowLengths desc.width layout.cpp) pitch.toNat) (nonempty : ¬ Empty desc) :
    (ofPitch desc layout pitch).Exact table desc where
  layout_eq := hlayout
  pitch_least := least
  headerRows_least := isLeast_headerRows fun hpitch =>
    nonempty (.inl ((pitch_eq_zero_iff (FormatTable.cpp_ne_zero hlayout) least).1 hpitch))
  offset_eq := rfl
  size_eq := rfl

namespace Exact

variable (exact : g.Exact table desc)

include exact

theorem pitch_ne_zero (nonempty : ¬ Empty desc) : g.pitch ≠ 0 := fun hpitch =>
  nonempty (.inl ((pitch_eq_zero_iff (FormatTable.cpp_ne_zero exact.layout_eq)
    exact.pitch_least).1 hpitch))

/-- There is one geometry of a surface at most. -/
theorem eq_ofPitch (nonempty : ¬ Empty desc) : g = ofPitch desc g.layout g.pitch := by
  have hrows : g.headerRows = DrmSurface.headerRows desc.headerSize g.pitch :=
    UInt32.toNat_inj.1 (exact.headerRows_least.unique
      (isLeast_headerRows (exact.pitch_ne_zero nonempty)))
  rw [ofPitch, ← hrows, ← exact.offset_eq, ← exact.size_eq]

/-- The pixels begin less than a row after the header, and they are all that
follows. -/
theorem bytes (nonempty : ¬ Empty desc) :
    desc.headerSize.toNat ≤ g.offset ∧ g.offset < desc.headerSize.toNat + g.pitch.toNat ∧
      (desc.headerSize = 0 → g.offset = 0) ∧ 0 < g.size ∧
      g.size - g.offset = desc.height.toNat * g.pitch.toNat := by
  have hpitch := exact.pitch_ne_zero nonempty
  have hsize : g.size ≠ 0 := by
    rw [exact.eq_ofPitch nonempty]
    exact (bytes_eq_zero_iff (FormatTable.cpp_ne_zero exact.layout_eq) exact.pitch_least).not.2
      nonempty
  have hrows : g.headerRows = DrmSurface.headerRows desc.headerSize g.pitch :=
    congrArg Geometry.headerRows (exact.eq_ofPitch nonempty)
  refine ⟨?_, ?_, ?_, Nat.pos_of_ne_zero hsize, ?_⟩
  · rw [exact.offset_eq]
    exact exact.headerRows_least.1
  · rw [exact.offset_eq, hrows]
    exact headerRows_mul_lt hpitch
  · intro hheader
    rw [exact.offset_eq, hrows, (headerRows_eq_zero_iff hpitch).2 hheader, UInt32.toNat_zero,
      Nat.zero_mul]
  · rw [exact.size_eq, exact.offset_eq, Nat.add_mul, Nat.add_sub_cancel]

end Exact

/-- Every way to compute a geometry is one of the four. -/
theorem computed_compute : Computed table desc (compute table desc) := by
  cases hlayout : table.resolve desc.format with
  | none =>
    rw [compute_of_resolve hlayout]
    exact .unsupported hlayout
  | some layout =>
    cases hpitch : pitchFor desc.width layout.cpp with
    | none =>
      have hrow := (pitchFor_eq_none_iff isLeast_rowLengths).1 hpitch
      rw [compute_of_large hlayout isLeast_rowLengths hrow]
      exact .overflow hlayout isLeast_rowLengths hrow
    | some pitch =>
      have least := pitchFor_eq_some_iff.1 hpitch
      rw [compute_of_pitch hlayout least]
      split
      · rename_i hempty
        exact .zeroSize hlayout least pitch.toNat_lt_size hempty
      · rename_i hnonempty
        exact .laid (exact_ofPitch hlayout least hnonempty) hnonempty

/-- The conditions of the outcomes exclude each other. -/
theorem compute_eq_iff : compute table desc = outcome ↔ Computed table desc outcome := by
  constructor
  · rintro rfl
    exact computed_compute
  · intro computed
    cases computed with
    | unsupported hlayout => exact compute_of_resolve hlayout
    | overflow hlayout least hrow => exact compute_of_large hlayout least hrow
    | zeroSize hlayout least hrow hempty =>
      obtain ⟨pitch, rfl⟩ : ∃ pitch : UInt32, pitch.toNat = _ :=
        ⟨.ofNat _, UInt32.toNat_ofNat_of_lt' hrow⟩
      rw [compute_of_pitch hlayout least, if_pos hempty]
    | laid exact hnonempty =>
      rw [compute_of_pitch exact.layout_eq exact.pitch_least, if_neg hnonempty,
        ← exact.eq_ofPitch hnonempty]

/-- A geometry that is computed is the one that the surface has to have. -/
theorem exact_of_compute (h : compute table desc = .ok g) : g.Exact table desc ∧ ¬ Empty desc := by
  cases compute_eq_iff.1 h with
  | laid exact nonempty => exact ⟨exact, nonempty⟩

theorem validated_validate {size? : Option Nat} :
    Validated table desc pitch size? (validate table desc pitch size?) := by
  cases hcompute : compute table desc with
  | error e =>
    simp only [validate, hcompute]
    exact .failed (compute_eq_iff.1 hcompute)
  | ok g =>
    have computed := compute_eq_iff.1 hcompute
    simp only [validate, hcompute]
    split
    · rename_i hpitch
      exact .badPitch computed hpitch
    · rename_i hpitch
      cases size? with
      | none => exact .valid computed (not_not.1 hpitch) (.inl rfl)
      | some size =>
        dsimp only
        split
        · rename_i hsize
          exact .badSize computed (not_not.1 hpitch) rfl hsize
        · rename_i hsize
          exact .valid computed (not_not.1 hpitch) (.inr (congrArg some (not_not.1 hsize)))

theorem validate_eq_iff {size? : Option Nat} :
    validate table desc pitch size? = outcome ↔ Validated table desc pitch size? outcome := by
  constructor
  · rintro rfl
    exact validated_validate
  · intro validated
    cases validated with
    | failed computed => simp only [validate, compute_eq_iff.2 computed]
    | badPitch computed hpitch =>
      simp only [validate, compute_eq_iff.2 computed, if_pos hpitch]
    | badSize computed hpitch hstated hsize =>
      subst hpitch hstated
      simp only [validate, compute_eq_iff.2 computed, ne_eq, not_true_eq_false, if_false,
        if_pos hsize]
    | valid computed hpitch hsize =>
      subst hpitch
      obtain rfl | rfl := hsize <;>
        simp only [validate, compute_eq_iff.2 computed, ne_eq, not_true_eq_false, if_false]

/-- Computing and validating a geometry give exactly the outcomes above, for
both tables and all surfaces.  No surface that gets as far as its bytes leaves
64 bits, whatever the pitch. -/
theorem compute_and_validate_exact (table : FormatTable) (desc : SurfaceDesc) :
    (∀ outcome, compute table desc = outcome ↔ Computed table desc outcome) ∧
    (∀ pitch : UInt32, (desc.height.toNat +
      (DrmSurface.headerRows desc.headerSize pitch).toNat) * pitch.toNat < UInt64.size) ∧
    (∀ g, compute table desc = .ok g →
      desc.headerSize.toNat ≤ g.offset ∧ g.offset < desc.headerSize.toNat + g.pitch.toNat ∧
        (desc.headerSize = 0 → g.offset = 0) ∧ 0 < g.size ∧
        g.size - g.offset = desc.height.toNat * g.pitch.toNat) ∧
    ∀ pitch size? outcome,
      validate table desc pitch size? = outcome ↔ Validated table desc pitch size? outcome := by
  refine ⟨fun _ => compute_eq_iff, fun _ => bytes_lt_word, ?_, fun _ _ _ => validate_eq_iff⟩
  intro g hg
  obtain ⟨exact, nonempty⟩ := exact_of_compute hg
  exact exact.bytes nonempty

/-- A header of two bytes in front of three pixels by one takes a row. -/
theorem compute_and_validate_exact_sample : ∃ g,
    compute .rockchip ⟨.rgb888, 2, 3, 1⟩ = .ok g ∧ 2 ≤ g.offset ∧ g.offset < 2 + g.pitch.toNat ∧
      g.size - g.offset = 1 * g.pitch.toNat ∧
      ¬ Validated .rockchip ⟨.rgb888, 2, 3, 1⟩ 9 none (.ok g) := by
  obtain ⟨-, -, hbytes, hvalidate⟩ := compute_and_validate_exact .rockchip ⟨.rgb888, 2, 3, 1⟩
  obtain ⟨hholds, hclose, -, -, hpixels⟩ := hbytes ⟨⟨24, 3, some 0x0200⟩, 12, 1, 24, 12⟩ rfl
  refine ⟨_, rfl, hholds, hclose, hpixels, ?_⟩
  rw [← hvalidate]
  intro h
  cases h

end Geometry

end DrmSurface
