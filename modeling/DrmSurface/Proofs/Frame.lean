import DrmSurface.Proofs.Driver

/-!
# Buffers do not change

A buffer is the same from its creation on until it is destroyed, apart from its
mapping, and an operation on one buffer leaves the other ones as they are.  The
engine's view of a buffer is a copy, made when the buffer was created, so it
still agrees with the buffer later.

There are three groups.

* `Pool.same_of_ran`: one buffer before and after a history.
* `Rockchip.Shown`, what the engine's view of a buffer is.
* `Driver.buffers_immutable`, for the drivers of both backends.
-/

namespace DrmSurface

open Prog

/-! ## One buffer in two states -/

namespace Pool

variable {β γ : Type} {New : BufferId → β → Prop} {Mapped Unmapped : β → Mapping → β → Prop}
  {table : Table (Pool β)} {p p' : Pool β} {history : List Episode} {fixed : β → γ} {n : Nat}
  {id : BufferId} {b b' : β}

/-- What neither mapping nor unmapping changes is the same before and after a
history, and a buffer that was neither mapped nor unmapped is the same. -/
theorem same_of_ran
    (hstep : ∀ {p e p'}, Step table p e p' → Effect New Mapped Unmapped p e p')
    (hfixed : ∀ {b b'}, Switched Mapped Unmapped b b' → fixed b' = fixed b)
    (run : Ran table p history p') (hp : p.Numbered n)
    (few : n + creations history ≤ BufferId.count) (hb : p.get? id = some b)
    (hb' : p'.get? id = some b') :
    fixed b' = fixed b ∧
      ((∀ e ∈ history, e.op ≠ .map id ∧ e.op ≠ .unmap id) → b' = b) := by
  have hid := hp.le_of_get? hb
  have hchange : ∀ {p e p'}, Step table p e p' →
      Change New (fun b b' => fixed b' = fixed b) p e.created? p' :=
    fun now => ((hstep now).turnover.mono hfixed).change
  constructor
  · obtain ⟨b₀, hb₀, hsame⟩ :=
      get?_of_ran hchange (fun _ => rfl) (fun h₁ h₂ => h₂.trans h₁) run hp few hid hb'
    cases hb.symm.trans hb₀
    exact hsame
  · intro untouched
    have hb₀ := get?_of_effects hstep run hp few hid untouched hb'
    cases hb.symm.trans hb₀
    rfl

/-- An operation that is not about a buffer leaves it as it is. -/
theorem Effect.get?_of_unaddressed {e : Episode} (h : Effect New Mapped Unmapped p e p')
    (hp : p.Numbered n) (few : n + (if e.created?.isSome then 1 else 0) ≤ BufferId.count)
    (hb : p.get? id = some b) (hmap : e.op ≠ .map id) (hunmap : e.op ≠ .unmap id)
    (hdestroy : e.op ≠ .destroy id) : p'.get? id = some b := by
  have hcreated := h.created?_ne hp few (hp.le_of_get? hb)
  rcases h.get?_of_untouched hcreated hmap hunmap with heq | ⟨hop, -⟩
  · rw [heq, hb]
  · exact absurd hop hdestroy

end Pool

/-! ## The engine's view -/

namespace Rockchip

/-- The engine's view of the buffer with an id is what the engine has answered
in the creation of the buffer, together with the shape of the buffer. -/
def Shown (history : List Episode) (id : BufferId) (b : Buffer) (view : EngineView) : Prop :=
  ∃ e fd code, e ∈ history ∧ e.created? = some id ∧ b.surface.prime = some fd ∧
    (FormatTable.rockchip.resolve b.surface.format).bind (·.native) = some code ∧
    ⟨.engine (.importBuffer fd b.surface.width
      (b.surface.height + b.surface.geometry.headerRows) code), .ok view.handle⟩ ∈ e.trace ∧
    view = { handle := view.handle, width := b.surface.width
             height := b.surface.height + b.surface.geometry.headerRows, format := code
             pitch := b.surface.geometry.pitch, cpp := b.surface.geometry.layout.cpp
             alpha := none }

variable {opening : List Exchange} {history : List Episode} {pool : State} {id : BufferId}
  {b : Buffer} {view : EngineView}

theorem Sound.native_eq (h : Sound id b) :
    (FormatTable.rockchip.resolve b.surface.format).bind (·.native) = some b.nativeFormat := by
  obtain ⟨desc, hcompute, hformat, -, -⟩ := h.laidOut
  have hresolve := (Geometry.parts_of_compute hcompute).1
  rw [hformat] at hresolve
  rw [hresolve, Option.bind_some, h.nativeFormat_eq]
  exact FormatTable.native_of_resolveRockchip hresolve

theorem Reached.shown (h : Reached opening history pool) (hb : pool.get? id = some b)
    (hview : b.view = some view) : Shown history id b view := by
  have sound := h.sound hb
  obtain ⟨e, he, hcreated, imported⟩ := h.imported hb
  obtain ⟨fd, hfd, hmem⟩ := imported view hview
  exact ⟨e, fd, b.nativeFormat, he, hcreated, hfd, sound.native_eq, hmem, sound.view_eq hview⟩

end Rockchip

/-! ## Drivers -/

theorem Vmwgfx.fixed_of_switched {b b' : Vmwgfx.Buffer}
    (h : Pool.Switched Mapped Unmapped b b') : b'.withMapping none 0 = b.withMapping none 0 := by
  obtain ⟨m, h | h⟩ := h <;> rw [h.result_eq] <;> rfl

theorem Rockchip.fixed_of_switched {b b' : Rockchip.Buffer}
    (h : Pool.Switched Mapped Unmapped b b') : b'.withMapping none = b.withMapping none := by
  obtain ⟨m, h | h⟩ := h <;> rw [h.result_eq] <;> rfl

namespace Driver

variable {pageSize : Nat} {backend : Backend} {opening : List Exchange} {h₁ h₂ : List Episode}
  {start d₁ d₂ : Driver}

theorem same_of_ran (hnew : (Driver.new backend).Runs opening start)
    (run₁ : Ran (perform pageSize) start h₁ d₁) (run₂ : Ran (perform pageSize) d₁ h₂ d₂)
    (few : creations h₁ + creations h₂ ≤ BufferId.count) {id : BufferId} {b₁ b₂ : AnyBuffer}
    (hb₁ : d₁.buffer? id = some b₁) (hb₂ : d₂.buffer? id = some b₂) :
    b₂.fixed = b₁.fixed ∧ ((∀ e ∈ h₂, e.op ≠ .map id ∧ e.op ≠ .unmap id) → b₂ = b₁) := by
  rcases ran_cases hnew run₁ with ⟨pool, rfl, hran⟩ | ⟨pool, rfl, reached⟩
  · obtain ⟨pool', rfl, hran'⟩ := (Ran.embed_iff step_vmwgfx_iff).1 run₂
    obtain ⟨b, hb, rfl⟩ := Option.map_eq_some_iff.1 hb₁
    obtain ⟨b', hb', rfl⟩ := Option.map_eq_some_iff.1 hb₂
    have hp := Vmwgfx.numbered_of_ran hran (by omega)
    obtain ⟨hfixed, hsame⟩ := Pool.same_of_ran Vmwgfx.perform_effect Vmwgfx.fixed_of_switched
      hran' hp few hb hb'
    exact ⟨congrArg AnyBuffer.vmwgfx hfixed,
      fun untouched => congrArg AnyBuffer.vmwgfx (hsame untouched)⟩
  · obtain ⟨pool', rfl, hran'⟩ := (Ran.embed_iff step_rockchip_iff).1 run₂
    obtain ⟨b, hb, rfl⟩ := Option.map_eq_some_iff.1 hb₁
    obtain ⟨b', hb', rfl⟩ := Option.map_eq_some_iff.1 hb₂
    have hp := reached.numbered (by omega)
    obtain ⟨hfixed, hsame⟩ := Pool.same_of_ran Rockchip.perform_effect
      Rockchip.fixed_of_switched hran' hp few hb hb'
    exact ⟨congrArg AnyBuffer.rockchip hfixed,
      fun untouched => congrArg AnyBuffer.rockchip (hsame untouched)⟩

theorem shown_of_ran (hnew : (Driver.new backend).Runs opening start)
    (run : Ran (perform pageSize) start h₁ d₁) {id : BufferId} {b : Rockchip.Buffer}
    {view : EngineView}
    (hb : d₁.buffer? id = some (.rockchip b)) (hview : b.view = some view) :
    Rockchip.Shown h₁ id b view := by
  rcases ran_cases hnew run with ⟨pool, rfl, -⟩ | ⟨pool, rfl, reached⟩
  · obtain ⟨b', -, heq⟩ := Option.map_eq_some_iff.1 hb
    cases heq
  · obtain ⟨b', hb', heq⟩ := Option.map_eq_some_iff.1 hb
    cases heq
    exact reached.shown hb' hview

theorem kept_of_step (hnew : (Driver.new backend).Runs opening start)
    (run : Ran (perform pageSize) start h₁ d₁) {id : BufferId} {b : AnyBuffer} {e : Episode}
    (hb : d₁.buffer? id = some b) (now : Step (perform pageSize) d₁ e d₂)
    (few : creations h₁ + (if e.created?.isSome then 1 else 0) ≤ BufferId.count)
    (hmap : e.op ≠ .map id) (hunmap : e.op ≠ .unmap id) (hdestroy : e.op ≠ .destroy id) :
    d₂.buffer? id = some b := by
  rcases ran_cases hnew run with ⟨pool, rfl, hran⟩ | ⟨pool, rfl, reached⟩
  · obtain ⟨pool', rfl, h⟩ := (step_vmwgfx_iff pool e d₂).1 now
    obtain ⟨b', hb', rfl⟩ := Option.map_eq_some_iff.1 hb
    have hp := Vmwgfx.numbered_of_ran hran (by omega)
    exact congrArg (Option.map _)
      ((Vmwgfx.perform_effect h).get?_of_unaddressed hp few hb' hmap hunmap hdestroy)
  · obtain ⟨pool', rfl, h⟩ := (step_rockchip_iff pool e d₂).1 now
    obtain ⟨b', hb', rfl⟩ := Option.map_eq_some_iff.1 hb
    have hp := reached.numbered (by omega)
    exact congrArg (Option.map _)
      ((Rockchip.perform_effect h).get?_of_unaddressed hp few hb' hmap hunmap hdestroy)

/-- A buffer that a driver has in two states is the same in both, apart from its
mapping, and it is mapped as before unless it was mapped or unmapped between.
The engine's view of a buffer shows the buffer as it was imported in its
creation, and an operation on another buffer does not change it. -/
theorem buffers_immutable (hnew : (Driver.new backend).Runs opening start)
    (run₁ : Ran (perform pageSize) start h₁ d₁) (run₂ : Ran (perform pageSize) d₁ h₂ d₂)
    (few : creations (h₁ ++ h₂) ≤ BufferId.count) :
    (∀ id b₁ b₂, d₁.buffer? id = some b₁ → d₂.buffer? id = some b₂ →
      b₂.fixed = b₁.fixed ∧
        ((∀ e ∈ h₂, e.op ≠ .map id ∧ e.op ≠ .unmap id) → b₂ = b₁)) ∧
    (∀ id b view, d₁.buffer? id = some (.rockchip b) → b.view = some view →
      Rockchip.Shown h₁ id b view) ∧
    ∀ id b e d, d₁.buffer? id = some b → Step (perform pageSize) d₁ e d →
      creations (h₁ ++ [e]) ≤ BufferId.count → e.op ≠ .map id → e.op ≠ .unmap id →
        e.op ≠ .destroy id → d.buffer? id = some b := by
  rw [creations_append] at few
  refine ⟨?_, ?_, ?_⟩
  · intro id b₁ b₂ hb₁ hb₂
    exact same_of_ran hnew run₁ run₂ few hb₁ hb₂
  · intro id b view hb hview
    exact shown_of_ran hnew run₁ hb hview
  · intro id b e d hb now hfew
    simp only [creations_append, creations_cons, creations_nil, Nat.zero_add] at hfew
    exact kept_of_step hnew run₁ hb now hfew

/-- The engine imports a buffer in its creation.  The buffer is mapped then, and
another one is destroyed. -/
theorem buffers_immutable_sample :
    ∃ opening start h₁ h₂ d₁ d₂ b₁ b₂ view, (Driver.new .rockchip).Runs opening start ∧
      Ran (perform 4096) start h₁ d₁ ∧ Ran (perform 4096) d₁ h₂ d₂ ∧
      d₁.buffer? .first = some (.rockchip b₁) ∧ d₂.buffer? .first = some (.rockchip b₂) ∧
      b₁.surface.isMapped = false ∧ b₂.surface.isMapped = true ∧
      (AnyBuffer.rockchip b₂).fixed = (AnyBuffer.rockchip b₁).fixed ∧
      Rockchip.Shown h₁ .first b₁ view := by
  have hnew : (Driver.new .rockchip).play granted = some (_, .rockchip ∅) := rfl
  have hplay : (do
      let (h₁, d₁) ← playAll (perform 4096) granted (.rockchip ∅)
        [.importPrime ⟨5⟩ none ⟨.xrgb8888, 0, 32, 32⟩ 128, .create ⟨.xrgb8888, 0, 8, 4⟩ .general]
      let (h₂, d₂) ← playAll (perform 4096) granted d₁ [.map .first, .destroy BufferId.first.next]
      let b₁ ← d₁.buffer? .first
      let b₂ ← d₂.buffer? .first
      return (creations (h₁ ++ h₂), b₁, b₂)) = some (2, .rockchip _, .rockchip _) := rfl
  simp only [Option.bind_eq_bind, Option.bind_eq_some_iff, Prod.exists] at hplay
  obtain ⟨h₁, d₁, hfirst, h₂, d₂, hthen, b₁, hb₁, b₂, hb₂, heq⟩ := hplay
  obtain ⟨htwo, rfl, rfl⟩ := by
    simpa only [Option.pure_def, Option.some.injEq, Prod.mk.injEq] using heq
  have run₁ := ran_of_playAll hfirst
  have run₂ := ran_of_playAll hthen
  have few : creations (h₁ ++ h₂) ≤ BufferId.count := by
    rw [htwo]
    decide
  obtain ⟨hsame, hshown, -⟩ := buffers_immutable (runs_of_play hnew) run₁ run₂ few
  exact ⟨_, _, h₁, h₂, d₁, d₂, _, _, _, runs_of_play hnew, run₁, run₂, hb₁, hb₂, rfl, rfl,
    (hsame _ _ _ hb₁ hb₂).1, hshown _ _ _ hb₁ rfl⟩

end Driver

end DrmSurface
