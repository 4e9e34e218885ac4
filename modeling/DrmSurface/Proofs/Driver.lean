import DrmSurface.Driver.Basic
import DrmSurface.Proofs.Rockchip.Change
import DrmSurface.Proofs.Vmwgfx.Change

/-!
# Drivers of either backend

A driver is the pool of its backend.  What is known of the pools of both
backends is stated here for drivers.

There are two groups.

* `Ran.embed_iff`: the histories of a driver are those of its backend.
  `ran_cases` turns a history of a driver into one of a pool, and `step_cases`
  does so with a step.
* `AnyBuffer`, a buffer of either backend, and the one that a driver has under
  an id.
-/

namespace DrmSurface

open Prog

/-! ## Histories of a driver -/

/-- If each step of one table is a step of another, then so is each history. -/
theorem Ran.embed_iff {σ τ : Type} {table : Table σ} {table' : Table τ} {f : σ → τ} {s₀ : σ}
    (hstep : ∀ s e d, Step table' (f s) e d ↔ ∃ s', d = f s' ∧ Step table s e s')
    {history : List Episode} {d : τ} :
    Ran table' (f s₀) history d ↔ ∃ s, d = f s ∧ Ran table s₀ history s := by
  constructor
  · intro run
    induction run with
    | start => exact ⟨s₀, rfl, .start⟩
    | @step history d d' e _ now ih =>
      obtain ⟨s, rfl, hbefore⟩ := ih
      obtain ⟨s', rfl, hnow⟩ := (hstep s e d').1 now
      exact ⟨s', rfl, hbefore.step hnow⟩
  · rintro ⟨s, rfl, run⟩
    induction run with
    | start => exact .start
    | @step history s s' e _ now ih => exact ih.step ((hstep s e (f s')).2 ⟨s', rfl, now⟩)

namespace Driver

/-- A step that puts the state of a backend back into its driver. -/
private theorem step_aux {α σ : Type} {p : Prog (Except DriverError α × σ)} {f : σ → Driver}
    {t : List Exchange} {r : Except DriverError α} {d : Driver} :
    (do let (result, s) ← p
        return (result, f s)).Runs t (r, d) ↔ ∃ s, d = f s ∧ p.Runs t (r, s) := by
  refine runs_bind_pure_iff.trans ⟨?_, ?_⟩
  · rintro ⟨⟨r', s⟩, heq, h⟩
    cases heq
    exact ⟨s, rfl, h⟩
  · rintro ⟨s, rfl, h⟩
    exact ⟨(r, s), rfl, h⟩

variable {pageSize : Nat}

theorem step_vmwgfx_iff (pool : Vmwgfx.State) (e : Episode) (d : Driver) :
    Step (perform pageSize) (.vmwgfx pool) e d ↔
      ∃ pool', d = .vmwgfx pool' ∧ Step (Vmwgfx.perform pageSize) pool e pool' :=
  step_aux

theorem step_rockchip_iff (pool : Rockchip.State) (e : Episode) (d : Driver) :
    Step (perform pageSize) (.rockchip pool) e d ↔
      ∃ pool', d = .rockchip pool' ∧ Step Rockchip.perform pool e pool' :=
  step_aux

variable {backend : Backend} {opening : List Exchange} {history : List Episode}
  {start d d' : Driver} {e : Episode}

/-- A history of a new driver is one of the empty pool of its backend. -/
theorem ran_cases (hnew : (Driver.new backend).Runs opening start)
    (run : Ran (perform pageSize) start history d) :
    (∃ pool, d = .vmwgfx pool ∧ Ran (Vmwgfx.perform pageSize) ∅ history pool) ∨
      ∃ pool, d = .rockchip pool ∧ Rockchip.Reached opening history pool := by
  cases backend with
  | vmwgfx =>
    obtain ⟨-, rfl⟩ := runs_done_iff.1 hnew
    exact .inl ((Ran.embed_iff step_vmwgfx_iff).1 run)
  | rockchip =>
    obtain ⟨pool₀, rfl, hopen⟩ := runs_bind_pure_iff.1 hnew
    obtain ⟨pool, rfl, hran⟩ := (Ran.embed_iff step_rockchip_iff).1 run
    exact .inr ⟨pool, rfl, pool₀, hopen, hran⟩

/-- A step of a driver is one of its backend. -/
theorem step_cases (now : Step (perform pageSize) d e d') :
    (∃ pool pool', d = .vmwgfx pool ∧ d' = .vmwgfx pool' ∧
        Step (Vmwgfx.perform pageSize) pool e pool') ∨
      ∃ pool pool', d = .rockchip pool ∧ d' = .rockchip pool' ∧
        Step Rockchip.perform pool e pool' := by
  cases d with
  | vmwgfx pool =>
    obtain ⟨pool', rfl, h⟩ := (step_vmwgfx_iff pool e d').1 now
    exact .inl ⟨pool, pool', rfl, rfl, h⟩
  | rockchip pool =>
    obtain ⟨pool', rfl, h⟩ := (step_rockchip_iff pool e d').1 now
    exact .inr ⟨pool, pool', rfl, rfl, h⟩

end Driver

/-! ## Buffers -/

/-- A buffer of either backend. -/
inductive AnyBuffer where
  | vmwgfx (b : Vmwgfx.Buffer)
  | rockchip (b : Rockchip.Buffer)
  deriving DecidableEq

/-- The buffer without what its mappings change. -/
def AnyBuffer.fixed : AnyBuffer → AnyBuffer
  | vmwgfx b => vmwgfx (b.withMapping none 0)
  | rockchip b => rockchip (b.withMapping none)

/-- The buffer that a driver has under an id. -/
def Driver.buffer? : Driver → BufferId → Option AnyBuffer
  | vmwgfx pool, id => (pool.get? id).map .vmwgfx
  | rockchip pool, id => (pool.get? id).map .rockchip

end DrmSurface
