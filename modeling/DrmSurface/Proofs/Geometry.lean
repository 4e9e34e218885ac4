import DrmSurface.Engine.Basic
import DrmSurface.Proofs.Layout
import Mathlib.Tactic.Linarith

/-!
# The bytes of a surface

What the geometry of a surface says about its bytes, and which bytes a
rectangle of the engine reaches.

There are three groups.

* What a geometry gives that was computed or validated.  `Geometry.Laid` has the
  equations between the pitch, the rows and the bytes.
* Rectangles.  `EngineRect.Inside` says that a rectangle lies in the pixels of
  a surface, below its header rows.  Both ways of making a rectangle for
  the engine make one that lies inside.
* `EngineRect.Inside.bytes`, the bytes of a pixel of such a rectangle.
-/

namespace DrmSurface

/-! ## Geometry -/

/-- The geometry of a surface of some width and height is put together as it
should be. -/
structure Geometry.Laid (g : Geometry) (width height : UInt32) : Prop where
  row_le : width.toNat * g.layout.cpp.toNat ≤ g.pitch.toNat
  offset_eq : g.offset = g.headerRows.toNat * g.pitch.toNat
  size_eq : g.size = (height.toNat + g.headerRows.toNat) * g.pitch.toNat

/-- A geometry is computed from the layout of the format and from the pitch. -/
theorem Geometry.parts_of_compute {table : FormatTable} {desc : SurfaceDesc} {g : Geometry}
    (h : Geometry.compute table desc = .ok g) :
    table.resolve desc.format = some g.layout ∧ pitchFor desc.width g.layout.cpp = some g.pitch ∧
      g.offset = g.headerRows.toNat * g.pitch.toNat ∧
      g.size = (desc.height.toNat + g.headerRows.toNat) * g.pitch.toNat := by
  obtain ⟨exact, -⟩ := exact_of_compute h
  exact ⟨exact.layout_eq, pitchFor_eq_some_iff.2 exact.pitch_least, exact.offset_eq, exact.size_eq⟩

theorem Geometry.laid_of_compute {table : FormatTable} {desc : SurfaceDesc} {g : Geometry}
    (h : Geometry.compute table desc = .ok g) : g.Laid desc.width desc.height := by
  obtain ⟨exact, -⟩ := exact_of_compute h
  exact ⟨exact.pitch_least.1.2, exact.offset_eq, exact.size_eq⟩

/-- A surface that can be laid out has bytes. -/
theorem Geometry.size_pos_of_compute {table : FormatTable} {desc : SurfaceDesc} {g : Geometry}
    (h : Geometry.compute table desc = .ok g) : 0 < g.size := by
  obtain ⟨exact, nonempty⟩ := exact_of_compute h
  exact (exact.bytes nonempty).2.2.2.1

theorem Geometry.compute_of_validate {table : FormatTable} {desc : SurfaceDesc} {pitch : UInt32}
    {size? : Option Nat} {g : Geometry} (h : Geometry.validate table desc pitch size? = .ok g) :
    Geometry.compute table desc = .ok g := by
  cases validate_eq_iff.1 h with
  | valid computed _ _ => exact compute_eq_iff.2 computed

/-- The geometry depends on the header through its rows only. -/
theorem Geometry.compute_of_headerRows {table : FormatTable} {desc desc' : SurfaceDesc}
    {g : Geometry} (h : Geometry.compute table desc = .ok g) (hformat : desc'.format = desc.format)
    (hwidth : desc'.width = desc.width) (hheight : desc'.height = desc.height)
    (hrows : DrmSurface.headerRows desc'.headerSize g.pitch = g.headerRows) :
    Geometry.compute table desc' = .ok g := by
  obtain ⟨exact, nonempty⟩ := exact_of_compute h
  have exact' : g.Exact table desc' := by
    refine ⟨?_, ?_, ?_, exact.offset_eq, ?_⟩
    · rw [hformat, exact.layout_eq]
    · rw [hwidth]
      exact exact.pitch_least
    · rw [← hrows]
      exact isLeast_headerRows (exact.pitch_ne_zero nonempty)
    · rw [hheight, exact.size_eq]
  refine compute_eq_iff.2 (.laid exact' fun hempty => ?_)
  have hzero := (bytes_eq_zero_iff (FormatTable.cpp_ne_zero exact'.layout_eq)
    exact'.pitch_least).2 hempty
  rw [hrows, ← exact'.size_eq] at hzero
  exact absurd hzero (Geometry.size_pos_of_compute h).ne'

/-- An existing surface is accepted if the right pitch and size are stated, and otherwise
it is refused. -/
theorem Geometry.validate_eq_ok_iff {table : FormatTable} {desc : SurfaceDesc} {g g' : Geometry}
    {size : Nat} (h : Geometry.compute table desc = .ok g) :
    Geometry.validate table desc g.pitch (some size) = .ok g' ↔ size = g.size ∧ g' = g := by
  rw [validate_eq_iff]
  constructor
  · intro validated
    cases validated with
    | valid computed _ hsize =>
      cases h.symm.trans (compute_eq_iff.2 computed)
      exact ⟨by simpa using hsize, rfl⟩
  · rintro ⟨rfl, rfl⟩
    exact .valid (compute_eq_iff.1 h) rfl (.inr rfl)

/-- The bytes in front of the pixels take as many header rows as there are. -/
theorem Geometry.headerRows_of_offset {table : FormatTable} {desc : SurfaceDesc} {g : Geometry}
    (h : Geometry.compute table desc = .ok g) (hword : g.offset < UInt32.size) :
    DrmSurface.headerRows (UInt32.ofNat g.offset) g.pitch = g.headerRows := by
  obtain ⟨exact, nonempty⟩ := exact_of_compute h
  have hpitch := exact.pitch_ne_zero nonempty
  have hnat : (UInt32.ofNat g.offset).toNat = g.headerRows.toNat * g.pitch.toNat := by
    rw [UInt32.toNat_ofNat_of_lt' hword, exact.offset_eq]
  have least : IsLeast (HeaderRowCounts (UInt32.ofNat g.offset) g.pitch) g.headerRows.toNat := by
    rw [HeaderRowCounts, hnat]
    exact ⟨Nat.le_refl _, fun n hn =>
      Nat.le_of_mul_le_mul_right hn (toNat_pos_of_ne_zero hpitch)⟩
  exact UInt32.toNat_inj.1 ((isLeast_headerRows hpitch).unique least)

/-- The generic table has no codes of an engine. -/
theorem FormatTable.native_of_resolveGeneric {format : Fourcc} {layout : PixelLayout}
    (h : FormatTable.generic.resolve format = some layout) : layout.native = none := by
  simp only [resolve, resolveGeneric] at h
  split_ifs at h <;> cases h <;> rfl

/-- The engine has a code for every format of its table. -/
theorem FormatTable.native_of_resolveRockchip {format : Fourcc} {layout : PixelLayout}
    (h : FormatTable.rockchip.resolve format = some layout) :
    layout.native = some (layout.native.getD 0) := by
  obtain ⟨⟨_, cpp, code⟩, -, rfl⟩ := Option.map_eq_some_iff.1 h
  rfl

/-! ## Rectangles -/

/-- A rectangle of the engine lies in the pixels of a surface, which has some
header rows. -/
structure EngineRect.Inside (r : EngineRect) (width height headerRows : UInt32) : Prop where
  width_nonneg : 0 ≤ r.width
  height_nonneg : 0 ≤ r.height
  x_nonneg : 0 ≤ r.x
  headerRows_le : (headerRows.toNat : Int) ≤ r.y
  right_le : r.x + r.width ≤ width.toNat
  bottom_le : r.y + r.height ≤ headerRows.toNat + height.toNat

/-- A rectangle that fits within a surface lies inside after it has been moved
down. -/
theorem Rect.inside_of_toEngine? {rect : Rect} {width height headerRows : UInt32}
    {r : EngineRect} (fits : rect.FitsWithin width height)
    (h : rect.toEngine? headerRows = some r) : r.Inside width height headerRows := by
  obtain ⟨hx, hy, hright, hbottom⟩ := fits
  rw [toEngine?] at h
  split at h
  · cases h
    constructor <;> dsimp only <;> omega
  · cases h

theorem Rect.fitsWithin_full {width height : UInt32} :
    (Rect.full width height).FitsWithin width height := by
  refine ⟨?_, ?_, ?_, ?_⟩ <;> simp [Rect.full]

/-! ## Bytes -/

/-- The bytes of a pixel of a rectangle that lies inside are bytes of the
pixels of the surface. -/
theorem EngineRect.Inside.bytes {r : EngineRect} {g : Geometry} {width height : UInt32}
    (inside : r.Inside width height g.headerRows) (laid : g.Laid width height) {x y : Int}
    (hleft : r.x ≤ x) (hright : x < r.x + r.width) (htop : r.y ≤ y)
    (hbottom : y < r.y + r.height) :
    (g.offset : Int) ≤ y * g.pitch.toNat + x * g.layout.cpp.toNat ∧
      y * g.pitch.toNat + x * g.layout.cpp.toNat + g.layout.cpp.toNat ≤ g.size := by
  obtain ⟨-, -, hx, hy, hxr, hyb⟩ := inside
  obtain ⟨hrow, hoffset, hsize⟩ := laid
  have hpitch : (0 : Int) ≤ g.pitch.toNat := by omega
  have hcpp : (0 : Int) ≤ g.layout.cpp.toNat := by omega
  constructor
  · -- The row is below the header rows.
    have hrows : (g.headerRows.toNat : Int) * g.pitch.toNat ≤ y * g.pitch.toNat :=
      mul_le_mul_of_nonneg_right (by omega) hpitch
    have hcolumn : 0 ≤ x * g.layout.cpp.toNat := mul_nonneg (by omega) hcpp
    have hoffset' : (g.offset : Int) = g.headerRows.toNat * g.pitch.toNat := by
      rw [hoffset]
      push_cast
      rfl
    omega
  · -- The pixel ends before the next row, which begins inside or at the end.
    have hend : (x + 1) * g.layout.cpp.toNat ≤ (g.pitch.toNat : Int) := by
      calc (x + 1) * (g.layout.cpp.toNat : Int)
          ≤ width.toNat * g.layout.cpp.toNat := mul_le_mul_of_nonneg_right (by omega) hcpp
        _ ≤ g.pitch.toNat := by exact_mod_cast hrow
    have hrows : (y + 1) * g.pitch.toNat ≤ (g.size : Int) := by
      calc (y + 1) * (g.pitch.toNat : Int)
          ≤ (height.toNat + g.headerRows.toNat) * g.pitch.toNat :=
            mul_le_mul_of_nonneg_right (by omega) hpitch
        _ = g.size := by
            rw [hsize]
            push_cast
            rfl
    linarith

end DrmSurface
