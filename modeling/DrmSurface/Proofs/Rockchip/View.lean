import DrmSurface.Proofs.Frame
import DrmSurface.Proofs.Rockchip.Import

/-!
# What the engine knows of the shape of a buffer

The engine counts the rows of a buffer in a word, the header rows included,
while the bytes of a buffer are counted in more than a word.  So there are surfaces
that are laid out and whose rows do not fit a word.  The driver stops before the
engine hears of them, and all other buffers are known to the engine as they are.

There are two groups.

* The rows of a geometry.  `Geometry.rows_fit_iff` tells from the request whether
  they fit a word, and below 16 GiB they always do.
* `view_describes_object`, with a surface at which the rows do not fit.
-/

namespace DrmSurface

/-! ## Rows -/

namespace Geometry

variable {table : FormatTable} {desc : SurfaceDesc} {g : Geometry}

/-- All rows fit a word if the header fits into the rows that the pixels leave. -/
theorem rows_fit_iff (h : compute table desc = .ok g) :
    desc.height.toNat + g.headerRows.toNat < UInt32.size ↔
      desc.headerSize.toNat ≤ (UInt32.size - 1 - desc.height.toNat) * g.pitch.toNat := by
  obtain ⟨exact, nonempty⟩ := exact_of_compute h
  have hheight := desc.height.toNat_lt_size
  constructor
  · intro hfit
    calc desc.headerSize.toNat
        ≤ g.headerRows.toNat * g.pitch.toNat := exact.headerRows_least.1
      _ ≤ (UInt32.size - 1 - desc.height.toNat) * g.pitch.toNat :=
          Nat.mul_le_mul_right _ (by omega)
  · intro hheader
    have hrows : g.headerRows.toNat ≤ UInt32.size - 1 - desc.height.toNat :=
      exact.headerRows_least.2 hheader
    omega

/-- Rows that do not fit a word take 16 GiB, since no row is shorter than four
bytes. -/
theorem rows_fit_of_size_lt (h : compute table desc = .ok g) (hsize : g.size < 2 ^ 34) :
    desc.height.toNat + g.headerRows.toNat < UInt32.size := by
  obtain ⟨exact, nonempty⟩ := exact_of_compute h
  have hpitch : 4 ≤ g.pitch.toNat :=
    Nat.le_of_dvd (toNat_pos_of_ne_zero (exact.pitch_ne_zero nonempty)) exact.pitch_least.1.1
  by_contra hfit
  have hlarge : 2 ^ 34 ≤ g.size := by
    calc 2 ^ 34 = UInt32.size * 4 := rfl
      _ ≤ (desc.height.toNat + g.headerRows.toNat) * g.pitch.toNat :=
          Nat.mul_le_mul (Nat.not_lt.1 hfit) hpitch
      _ = g.size := exact.size_eq.symm
  exact absurd hsize (Nat.not_lt.2 hlarge)

end Geometry

/-! ## The view -/

namespace Rockchip

open Prog (Exchange)

variable {opening : List Exchange} {history : List Episode} {pool : State} {id : BufferId}
  {b : Buffer} {view : EngineView}

/-- The engine has imported a buffer with the shape that its view has, and the view
has the pitch of the buffer. -/
theorem Shown.imported (h : Shown history id b view) :
    (∃ e ∈ history, e.created? = some id ∧ ∃ fd, b.surface.prime = some fd ∧
      ⟨.engine (.importBuffer fd view.width view.height view.format), .ok view.handle⟩ ∈
        e.trace) ∧
    view.pitch = b.surface.geometry.pitch ∧
      view.height = b.surface.height + b.surface.geometry.headerRows := by
  obtain ⟨e, fd, code, he, hcreated, hfd, -, hmem, hview⟩ := h
  have hwidth : view.width = b.surface.width := congrArg EngineView.width hview
  have hheight : view.height = b.surface.height + b.surface.geometry.headerRows :=
    congrArg EngineView.height hview
  have hformat : view.format = code := congrArg EngineView.format hview
  refine ⟨⟨e, he, hcreated, fd, hfd, ?_⟩, congrArg EngineView.pitch hview, hheight⟩
  rw [hwidth, hheight, hformat]
  exact hmem

/-- The engine has imported each buffer that it has a view of with the height of
the view, which is the number of all rows of the buffer, and the view has all
bytes of the buffer.

The rows of an accepted surface fit a word if the header fits into what the pixels
leave, and below 16 GiB they always do.  A creation never stops then.  If they do
not fit, then a creation stops before the engine is asked, or it makes a buffer
without a view. -/
theorem view_describes_object (pool : State) :
    (∀ opening history id b view, Reached opening history pool →
      pool.get? id = some b → b.view = some view →
        (∃ e ∈ history, e.created? = some id ∧ ∃ fd, b.surface.prime = some fd ∧
          ⟨.engine (.importBuffer fd view.width view.height view.format), .ok view.handle⟩ ∈
            e.trace) ∧
        view.height.toNat = b.surface.height.toNat + b.surface.geometry.headerRows.toNat ∧
        view.pitch.toNat * view.height.toNat = b.surface.geometry.size) ∧
    ∀ desc g, Geometry.compute .rockchip desc = .ok g →
      (desc.height.toNat + g.headerRows.toNat < UInt32.size ↔
        desc.headerSize.toNat ≤ (UInt32.size - 1 - desc.height.toNat) * g.pitch.toNat) ∧
      (g.size < 2 ^ 34 → desc.height.toNat + g.headerRows.toNat < UInt32.size) ∧
      ∀ op, op.desc? = some desc →
        (desc.height.toNat + g.headerRows.toNat < UInt32.size → (perform pool op).Safe) ∧
        (∀ t cause, (perform pool op).Aborts t cause →
          UInt32.size ≤ desc.height.toNat + g.headerRows.toNat ∧
            ∀ x ∈ t, ∀ request, x.call ≠ .engine request) := by
  refine ⟨fun opening history id b view reached hb hview => ?_, fun desc g hg =>
    ⟨Geometry.rows_fit_iff hg, Geometry.rows_fit_of_size_lt hg, fun op hop => ⟨?_, ?_⟩⟩⟩
  · obtain ⟨himported, hpitch, hheight⟩ := (reached.shown hb hview).imported
    obtain ⟨desc, hcompute, -, -, hdesc⟩ := (reached.sound hb).laidOut
    have hfits : b.surface.rows < UInt32.size := (reached.sound hb).counted (by simp [hview])
    have hexact : view.height.toNat = b.surface.rows := by
      rw [hheight, UInt32.toNat_add]
      exact Nat.mod_eq_of_lt hfits
    refine ⟨himported, hexact, ?_⟩
    rw [hpitch, hexact, Nat.mul_comm, Surface.rows, ← hdesc]
    exact (Geometry.laid_of_compute hcompute).size_eq.symm
  · refine fun hfits => perform_safe fun desc' g' hdesc' hg' => ?_
    cases hop.symm.trans hdesc'
    cases hg.symm.trans hg'
    exact hfits
  · intro t cause stops
    have stops := perform_aborts_iff.1 stops
    refine ⟨?_, stops.silent⟩
    obtain ⟨desc', g', _, _, _, _, granting, -, hlarge, -⟩ := stops
    cases hop.symm.trans granting.desc_eq
    cases hg.symm.trans granting.computed
    exact hlarge

/-- A buffer of four rows with one header row. -/
theorem view_describes_object_sample :
    ∃ opening history pool b view, Reached opening history pool ∧ pool.get? .first = some b ∧
      b.view = some view ∧ b.surface.geometry.size = 160 ∧ view.height.toNat = 4 + 1 ∧
      view.pitch.toNat * view.height.toNat = b.surface.geometry.size := by
  have hmake : (playLife granted [.create ⟨.xrgb8888, 16, 8, 4⟩ .general]).bind
      (fun r => r.2.2.1.get? .first) = some _ := rfl
  obtain ⟨⟨opening, history, pool, closing⟩, hlife, hb⟩ := Option.bind_eq_some_iff.1 hmake
  have reached := (life_of_playLife hlife).1
  obtain ⟨-, hheight, hbytes⟩ := (view_describes_object pool).1 _ _ _ _ _ reached hb rfl
  exact ⟨_, _, _, _, _, reached, hb, rfl, rfl, hheight, hbytes⟩

/-- A surface is accepted, with and without a look at a pitch that was stated, whose
rows do not fit a word.  If the device grants every call, then the sum of the rows stops
the creation, and the engine is not asked. -/
theorem rows_overflow :
    ∃ g t, Geometry.compute .rockchip tallest = .ok g ∧
      Geometry.validate .rockchip tallest 4 none = .ok g ∧
      tallest.height.toNat + g.headerRows.toNat = UInt32.size ∧
      (perform ∅ (.create tallest .general)).Aborts t .addOverflow ∧
      (∀ x ∈ t, x.answer = granted x.call) ∧ ∀ x ∈ t, ∀ request, x.call ≠ .engine request := by
  have stops : Stops ∅ (.create tallest .general) _ :=
    ⟨_, _, { handle := 0, flags := placementFlags .general }, ⟨0⟩, _, _,
      .create compute_tallest, .exported rfl, by decide, rfl⟩
  refine ⟨_, _, compute_tallest, rfl, rfl, perform_aborts_iff.2 stops, ?_, stops.silent⟩
  simp [granted, Origin.buffer, Surface.ofDesc]

end Rockchip

end DrmSurface
