import DrmSurface.Proofs.Rockchip.Balance
import DrmSurface.Proofs.Rockchip.Guard

/-!
# Nothing runs on the engine unchecked

Every composition that the engine is told to run has been checked before with
the same views, rectangles and usage, and the buffers of its views are still
there.

There are two groups.

* `InUse`, for a handle of the engine that has been imported and not been
  given back.  The count comes from the balance of the driver.
* `nothing_runs_unchecked`.
-/

namespace DrmSurface

open Prog (Exchange)

/-! ## Handles in use -/

/-- What callers hand to operations are no handles of the engine. -/
theorem Episode.count_view_acquired (e : Episode) (handle : EngineHandle) :
    e.acquired.count (.view handle) = (DrmSurface.acquired e.trace).count (.view handle) := by
  unfold Episode.acquired
  split
  · simp
  · simp
  · exact Multiset.count_filter_of_pos (by simp)
  · rfl

theorem count_view_acquired (history : List Episode) (handle : EngineHandle) :
    (history.map Episode.acquired).sum.count (.view handle) =
      (acquired (callsOf history)).count (.view handle) := by
  induction history with
  | nil => rfl
  | cons e history ih =>
    rw [callsOf_cons, acquired_append, Multiset.count_add, ← ih, List.map_cons, List.sum_cons,
      Multiset.count_add, e.count_view_acquired]

namespace Rockchip

variable {pool : State} {history : List Episode} {past future calls within : List Exchange}
  {x : Exchange} {e : Episode}

/-- A handle is that of a buffer of the pool, and it has been imported more
often than it has been given back. -/
def InUse (pool : State) (past : List Exchange) (handle : EngineHandle) : Prop :=
  (∃ id b view, pool.get? id = some b ∧ b.view = some view ∧ view.handle = handle) ∧
    (released past).count (.view handle) < (acquired past).count (.view handle)

theorem count_view_heldAll {id : BufferId} {b : Buffer} {view : EngineView}
    (hget : pool.get? id = some b) (hview : b.view = some view) :
    0 < (heldAll pool).count (.view view.handle) := by
  rw [heldAll_eq, Pool.heldAll_erase hget, Multiset.count_add, held, hview]
  simp

/-- The buffers of a request are in use when it is made. -/
theorem inUse_of_covers (made : MadeIn history past x e within pool)
    (hop : e.op.isAccelerated) (few : creations history ≤ BufferId.count)
    {id? : Option BufferId} {view : EngineView} {rect : EngineRect}
    (covers : Covers pool id? view rect) : InUse pool past view.handle := by
  obtain ⟨id, b, -, hget, hview, -⟩ := covers
  refine ⟨⟨id, b, _, hget, hview, rfl⟩, ?_⟩
  obtain ⟨opening, before, after, rest, rfl, htrace, rfl, reached, hnow⟩ := made
  obtain ⟨hacquired, hreleased⟩ := reached.opening_balanced
  have hidle : ∀ y ∈ within, y.acquired = 0 ∧ y.released = 0 := by
    intro y hy
    exact idle_of_composes (accelerated_asks hop _ _ hnow y (by simp [htrace, hy]))
  have hwithin : acquired within = 0 ∧ released within = 0 :=
    ⟨acquired_eq_zero fun y hy => (hidle y hy).1, released_eq_zero fun y hy => (hidle y hy).2⟩
  have hbefore : creations before ≤ BufferId.count := by
    rw [creations_append] at few
    omega
  have hheld := count_view_heldAll hget hview
  have hcount := count_view_acquired before view.handle
  rw [ran_balanced reached.ran hbefore, Multiset.count_add] at hcount
  simp only [acquired_append, released_append, hacquired, hreleased, hwithin, zero_add, add_zero]
  rw [← hcount]
  exact Nat.lt_add_of_pos_left hheld

/-! ## Checks -/

/-- Whatever the engine processes it has checked before with the same views,
rectangles and usage, and whatever it fills it has checked in the same
operation.  The handles of the views are in use then. -/
theorem nothing_runs_unchecked (life : Life history calls) (issued : Issued history)
    (few : creations history ≤ BufferId.count) (h : calls = past ++ x :: future) :
    (∀ src dst srcRect dstRect options usage,
      x.call = .engine (.process src dst srcRect dstRect options usage) →
        passed (some src) dst srcRect dstRect usage ∈ past ∧
          ∃ e within pool, MadeIn history past x e within pool ∧
            InUse pool past src.handle ∧ InUse pool past dst.handle) ∧
      ∀ dst rect color, x.call = .engine (.fill dst rect color) →
        ∃ e within pool, MadeIn history past x e within pool ∧
          (∃ id target, e.op = .fillRect id target color) ∧
          passed none dst .zero rect .colorFill ∈ within ∧ InUse pool past dst.handle := by
  constructor
  · intro src dst srcRect dstRect options usage hx
    obtain ⟨e, within, s, made, hop, hallowed⟩ := life.allowed issued few h (by rw [hx]; rfl)
    simp only [Allowed, hx] at hallowed
    obtain ⟨hpassed, hsrc, hdst⟩ := hallowed
    exact ⟨hpassed, e, within, s, made, inUse_of_covers made hop few hsrc,
      inUse_of_covers made hop few hdst⟩
  · intro dst rect color hx
    obtain ⟨e, within, s, made, hop, hallowed⟩ := life.allowed issued few h (by rw [hx]; rfl)
    simp only [Allowed, hx] at hallowed
    obtain ⟨hfill, hpassed, hdst⟩ := hallowed
    exact ⟨e, within, s, made, hfill, hpassed, inUse_of_covers made hop few hdst⟩

/-- The blit of `life_sampleBlit`, which was checked before. -/
theorem nothing_runs_unchecked_sample :
    ∃ history calls past x future, Life history calls ∧ calls = past ++ x :: future ∧
      x.call = .engine (.process sampleView sampleView sampleBlit.srcRect sampleBlit.dstRect
        sampleBlit.options sampleBlit.usage) ∧
      passed (some sampleView) sampleView sampleBlit.srcRect sampleBlit.dstRect
        sampleBlit.usage ∈ past := by
  obtain ⟨history, calls, past, x, future, life, issued, few, h, hx⟩ := life_sampleBlit
  exact ⟨history, calls, past, x, future, life, h, hx,
    ((nothing_runs_unchecked life issued few h).1 _ _ _ _ _ _ hx).1⟩

end Rockchip

end DrmSurface
