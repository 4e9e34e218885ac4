import DrmSurface.Proofs.Rockchip.Guard

/-!
# The engine stays inside the pixels of a buffer

The rectangles of all compositions lie in the pixels of their buffers, below
the header rows, so the engine neither reads nor writes a byte of a header or
a byte beyond the end of a buffer.

There are two groups.

* `Bounded`, what holds of one side of a composition: its view shows a buffer,
  and its rectangle and the bytes of its pixels lie inside.
* `engine_stays_inside`, for both sides of all compositions.
-/

namespace DrmSurface

/-- The view and the rectangle that a composition reads. -/
def EngineRequest.source? : EngineRequest → Option (EngineView × EngineRect)
  | .check (some src) _ srcRect _ _ => some (src, srcRect)
  | .process src _ srcRect .. => some (src, srcRect)
  | _ => none

/-- The view and the rectangle that a composition writes. -/
def EngineRequest.target? : EngineRequest → Option (EngineView × EngineRect)
  | .check _ dst _ dstRect _ => some (dst, dstRect)
  | .fill dst rect _ => some (dst, rect)
  | .process _ dst _ dstRect .. => some (dst, dstRect)
  | _ => none

namespace Rockchip

open Prog (Exchange)

variable {pool : State} {history : List Episode} {past future calls : List Exchange}
  {x : Exchange} {id : BufferId} {b : Buffer}

theorem Sound.laid (sound : Sound id b) :
    b.surface.geometry.Laid b.surface.width b.surface.height := by
  obtain ⟨desc, hcompute, -, hwidth, hheight⟩ := sound.laidOut
  rw [← hwidth, ← hheight]
  exact Geometry.laid_of_compute hcompute

/-- A side of a composition: its view shows the buffer that the operation
names, its rectangle lies in the pixels of this buffer, and the bytes of each
pixel of the rectangle lie between the header and the end. -/
structure Bounded (pool : State) (id? : Option BufferId) (view : EngineView) (rect : EngineRect)
    (b : Buffer) : Prop where
  found : ∃ id, id? = some id ∧ pool.get? id = some b
  view_eq : b.view = some { view with alpha := none }
  inside : rect.Inside b.surface.width b.surface.height b.surface.geometry.headerRows
  bytes : ∀ x y : Int, rect.x ≤ x → x < rect.x + rect.width → rect.y ≤ y →
    y < rect.y + rect.height →
      (b.surface.geometry.offset : Int) ≤
          y * b.surface.geometry.pitch.toNat + x * b.surface.geometry.layout.cpp.toNat ∧
        y * b.surface.geometry.pitch.toNat + x * b.surface.geometry.layout.cpp.toNat +
          b.surface.geometry.layout.cpp.toNat ≤ b.surface.geometry.size

theorem Covers.bounded (sound : AllSound pool) {id? : Option BufferId} {view : EngineView}
    {rect : EngineRect} (h : Covers pool id? view rect) : ∃ b, Bounded pool id? view rect b := by
  obtain ⟨id, b, hid, hget, hview, inside⟩ := h
  have laid := (sound hget).laid
  exact ⟨b, ⟨id, hid, hget⟩, hview, inside, fun _ _ hleft hright htop hbottom =>
    inside.bytes laid hleft hright htop hbottom⟩

/-- Both sides of an allowed composition cover a part of a buffer. -/
theorem Allowed.covers {op : Operation} {within : List Exchange} {request : EngineRequest}
    (h : Allowed pool op past within x) (hx : x.call = .engine request) :
    (∀ view rect, request.source? = some (view, rect) → Covers pool op.source? view rect) ∧
      ∀ view rect, request.target? = some (view, rect) → Covers pool op.target? view rect := by
  simp only [Allowed, hx] at h
  cases request with
  | describe | importBuffer | release =>
    constructor <;> intro view rect hs <;> cases hs
  | check src dst srcRect dstRect usage =>
    refine ⟨fun view rect hs => ?_, fun view rect ht => ?_⟩
    · cases src with
      | none => cases hs
      | some src =>
        cases hs
        exact h.1 _ rfl
    · cases ht
      exact h.2
  | fill dst rect color =>
    refine ⟨fun view rect hs => ?_, fun view rect ht => ?_⟩
    · cases hs
    · cases ht
      exact h.2.2
  | process src dst srcRect dstRect options usage =>
    refine ⟨fun view rect hs => ?_, fun view rect ht => ?_⟩
    · cases hs
      exact h.2.1
    · cases ht
      exact h.2.2

theorem composes_of_side {request : EngineRequest} {side : EngineView × EngineRect}
    (h : request.source? = some side ∨ request.target? = some side) :
    (Call.engine request).composes := by
  cases request with
  | describe | importBuffer | release => simp [EngineRequest.source?, EngineRequest.target?] at h
  | check | fill | process => rfl

/-- Both sides of every check, every fill and every composition that a driver
asks its engine for are bounded at the time of the call. -/
theorem engine_stays_inside (life : Life history calls) (issued : Issued history)
    (few : creations history ≤ BufferId.count) (h : calls = past ++ x :: future)
    {request : EngineRequest} (hx : x.call = .engine request) :
    (∀ view rect, request.source? = some (view, rect) →
      ∃ e within pool b, MadeIn history past x e within pool ∧
        Bounded pool e.op.source? view rect b) ∧
      ∀ view rect, request.target? = some (view, rect) →
        ∃ e within pool b, MadeIn history past x e within pool ∧
          Bounded pool e.op.target? view rect b := by
  have hmade : x.call.composes → ∃ e within s, MadeIn history past x e within s ∧
      AllSound s ∧ Allowed s e.op past within x := by
    intro hcomposes
    obtain ⟨e, within, s, made, -, hallowed⟩ := life.allowed issued few h hcomposes
    have ⟨_, _, _, _, _, _, _, reached, _⟩ := made
    exact ⟨e, within, s, made, reached.sound, hallowed⟩
  constructor
  · intro view rect hsource
    obtain ⟨e, within, s, made, sound, hallowed⟩ :=
      hmade (by rw [hx]; exact composes_of_side (.inl hsource))
    obtain ⟨b, hb⟩ := ((hallowed.covers hx).1 view rect hsource).bounded sound
    exact ⟨e, within, s, b, made, hb⟩
  · intro view rect htarget
    obtain ⟨e, within, s, made, sound, hallowed⟩ :=
      hmade (by rw [hx]; exact composes_of_side (.inr htarget))
    obtain ⟨b, hb⟩ := ((hallowed.covers hx).2 view rect htarget).bounded sound
    exact ⟨e, within, s, b, made, hb⟩

/-- The target of the blit of `life_sampleBlit`. -/
theorem engine_stays_inside_sample :
    ∃ history calls past x future, Life history calls ∧ calls = past ++ x :: future ∧
      ∃ e within pool b, MadeIn history past x e within pool ∧
        Bounded pool e.op.target? sampleView sampleBlit.dstRect b := by
  obtain ⟨history, calls, past, x, future, life, issued, few, h, hx⟩ := life_sampleBlit
  exact ⟨history, calls, past, x, future, life, h,
    (engine_stays_inside life issued few h hx).2 _ _ rfl⟩

end Rockchip

end DrmSurface
