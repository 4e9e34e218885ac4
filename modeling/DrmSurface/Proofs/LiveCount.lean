import DrmSurface.Proofs.Driver

/-!
# The meaning of the number of live buffers

A driver counts the buffers that it has created and that the device has not
freed.  The count and the table of buffers differ by the buffers that were
destroyed without being freed.

There are two groups.

* `Driver.releaseFirst`, the part of a teardown that has released some buffers,
  and what the count is then.
* `live_counts`, for all histories within the number of ids.
-/

namespace DrmSurface

open Prog

/-- A program that may first report something. -/
theorem Prog.runs_of_reported {α : Type} {c : Prop} [Decidable c] {n : Notice} {p : Prog α}
    {trace : List Exchange}
    (run : (do
      if c then log n
      let _ ← p
      return () : Prog Unit).Runs trace ()) :
    ∃ notices t a, trace = notices ++ t ∧ (∀ x ∈ notices, x.call.isNotice = true) ∧
      p.Runs t a := by
  have hparts : p.Ensures fun t a => p.Runs t a := fun _ _ hp => hp
  refine ensures_reported (P := fun trace => ∃ notices t a, trace = notices ++ t ∧
    (∀ x ∈ notices, x.call.isNotice = true) ∧ p.Runs t a)
    (hparts.mono fun t a hp => ⟨?_, ?_⟩) trace () run
  · exact ⟨[], t, a, rfl, by simp, hp⟩
  · exact ⟨[_], t, a, rfl, by simp [Call.isNotice], hp⟩

namespace Driver

/-! ## Teardown -/

/-- What is left of a driver when its teardown has released its first
buffers. -/
def releaseFirst (k : Nat) : Driver → Prog Driver
  | vmwgfx pool => do
    return .vmwgfx (← Vmwgfx.releaseAll pool.emptied (pool.buffers.values.take k))
  | rockchip pool => do
    return .rockchip (← Rockchip.releaseAll pool.emptied (pool.buffers.values.take k))

variable {pageSize : Nat} {backend : Backend} {opening closing : List Exchange}
  {history : List Episode}
  {start d d' : Driver} {e : Episode} {n k : Nat}

/-- A teardown reports what is left and then releases the first buffers, with
something live before each further release. -/
theorem exists_releaseFirst (hlive : d.ids.length ≤ d.live) (torn : d.teardown.Runs closing n)
    (hk : k ≤ d.ids.length) :
    n = d.live ∧ ∃ notices t₁ t₂ d₁, closing = notices ++ (t₁ ++ t₂) ∧
      (∀ x ∈ notices, x.call.isNotice = true) ∧ (d.releaseFirst k).Runs t₁ d₁ ∧
      d₁.live + (freeings t₁).count true = d.live ∧ (k < d.ids.length → 0 < d₁.live) := by
  cases d with
  | vmwgfx pool =>
    obtain ⟨⟨⟩, rfl, htorn⟩ := runs_bind_pure_iff.1 torn
    obtain ⟨notices, t, p', rfl, hnotices, hall⟩ := runs_of_reported htorn
    obtain ⟨t₁, t₂, p₁, rfl, hfirst, hcount, hpositive⟩ :=
      Vmwgfx.releases.exists_first hlive hall hk
    exact ⟨rfl, notices, t₁, t₂, .vmwgfx p₁, rfl, hnotices,
      runs_bind_pure_iff.2 ⟨p₁, rfl, hfirst⟩, hcount, hpositive⟩
  | rockchip pool =>
    obtain ⟨⟨⟩, rfl, htorn⟩ := runs_bind_pure_iff.1 torn
    obtain ⟨notices, t, p', rfl, hnotices, hall⟩ := runs_of_reported htorn
    obtain ⟨t₁, t₂, p₁, rfl, hfirst, hcount, hpositive⟩ :=
      Rockchip.releases.exists_first hlive hall hk
    exact ⟨rfl, notices, t₁, t₂, .rockchip p₁, rfl, hnotices,
      runs_bind_pure_iff.2 ⟨p₁, rfl, hfirst⟩, hcount, hpositive⟩

/-! ## All histories -/

theorem counted_of_ran (hnew : (Driver.new backend).Runs opening start)
    (run : Ran (perform pageSize) start history d) (few : creations history ≤ BufferId.count) :
    creations history = d.live + history.countP (·.frees) ∧
      d.live = d.ids.length + history.countP (·.loses) ∧
      (destroyedIds history).length =
        history.countP (·.frees) + history.countP (·.loses) := by
  rcases ran_cases hnew run with ⟨pool, rfl, hran⟩ | ⟨pool, rfl, reached⟩
  · have h := Pool.counted_of_ran Vmwgfx.perform_effect hran few
    exact ⟨h.created_eq, h.live_eq, h.destroyed_eq⟩
  · have h := Pool.counted_of_ran Rockchip.perform_effect reached.ran few
    exact ⟨h.created_eq, h.live_eq, h.destroyed_eq⟩

theorem live_of_step (hlive : d.ids.length ≤ d.live) (now : Step (perform pageSize) d e d') :
    d'.live + (if e.frees then 1 else 0) = d.live + if e.created?.isSome then 1 else 0 := by
  rcases step_cases now with ⟨pool, pool', rfl, rfl, h⟩ | ⟨pool, pool', rfl, rfl, h⟩
  · exact (Vmwgfx.perform_effect h).live_eq hlive
  · exact (Rockchip.perform_effect h).live_eq hlive

/-- What is live is what was created without what was destroyed and freed, and
it is what the driver lists together with what was destroyed and not freed.
Every buffer that is freed was live before, in a teardown, too.  A teardown
returns the number, and what fails, or neither creates nor destroys, does not
change it. -/
theorem live_counts (hnew : (Driver.new backend).Runs opening start)
    (run : Ran (perform pageSize) start history d) (few : creations history ≤ BufferId.count) :
    creations history = d.live + history.countP (·.frees) ∧
    d.live = d.ids.length + history.countP (·.loses) ∧
    (destroyedIds history).length = history.countP (·.frees) + history.countP (·.loses) ∧
    (∀ e d', Step (perform pageSize) d e d' → (e.frees → d'.live + 1 = d.live) ∧
      ((∃ error, e.result = .error error) ∨
        e.op.isCreation = false ∧ (∀ id, e.op ≠ .destroy id) → d'.live = d.live)) ∧
    ∀ closing n k, d.teardown.Runs closing n → k ≤ d.ids.length →
      n = d.live ∧ ∃ notices t₁ t₂ d₁, closing = notices ++ (t₁ ++ t₂) ∧
        (∀ x ∈ notices, x.call.isNotice = true) ∧ (d.releaseFirst k).Runs t₁ d₁ ∧
        d₁.live + (freeings t₁).count true = d.live ∧ (k < d.ids.length → 0 < d₁.live) := by
  obtain ⟨hcreated, hlive, hdestroyed⟩ := counted_of_ran hnew run few
  refine ⟨hcreated, hlive, hdestroyed, fun e d' now => ?_, ?_⟩
  · have hstep := live_of_step (by omega) now
    constructor
    · intro hfrees
      simpa [hfrees, Episode.created?_of_frees hfrees] using hstep
    · intro hidle
      have hnone : e.created? = none ∧ e.destroyed? = none := by
        rcases hidle with ⟨error, herror⟩ | ⟨hcreation, hdestroy⟩
        · exact Episode.idle_of_error herror
        · exact Episode.idle_of_op hcreation hdestroy
      simpa [Episode.frees, hnone] using hstep
  · intro closing n k torn hk
    exact exists_releaseFirst (by omega) torn hk

/-- A device that does not close the handle of one object. -/
def keepsHandle : (c : Call) → c.Answer
  | .ioctl (.gemClose handle) => if handle = 3 then .error .invalidArgument else .ok ()
  | c => granted c

/-- Three buffers, of which one is destroyed and freed and one destroyed and
not freed. -/
theorem live_counts_sample :
    ∃ opening start history d, (Driver.new .rockchip).Runs opening start ∧
      Ran (perform 4096) start history d ∧ creations history = 3 ∧
      history.countP (·.frees) = 1 ∧ history.countP (·.loses) = 1 ∧
      d.live = 2 ∧ d.ids.length = 1 := by
  have hnew : (Driver.new .rockchip).play keepsHandle = some (_, .rockchip ∅) := rfl
  have hplay : (playAll (perform 4096) keepsHandle (.rockchip ∅)
      [.create ⟨.xrgb8888, 16, 8, 4⟩ .general,
      .importName 3 ⟨.xrgb8888, 0, 8, 4⟩ 32, .create ⟨.xrgb8888, 16, 8, 4⟩ .general,
      .destroy .first, .destroy BufferId.first.next]).map
        (fun r => (creations r.1, r.1.countP (·.frees), r.1.countP (·.loses))) =
          some (3, 1, 1) := rfl
  obtain ⟨⟨history, d⟩, hops, heq⟩ := Option.map_eq_some_iff.1 hplay
  obtain ⟨hcreated, hfrees, hloses⟩ := by simpa only [Prod.mk.injEq] using heq
  have run := ran_of_playAll hops
  have few : creations history ≤ BufferId.count := by
    rw [hcreated]
    decide
  have h := live_counts (runs_of_play hnew) run few
  have hcount := h.1
  have hlive := h.2.1
  refine ⟨_, _, history, d, runs_of_play hnew, run, hcreated, hfrees, hloses, ?_, ?_⟩ <;> omega

end Driver

end DrmSurface
