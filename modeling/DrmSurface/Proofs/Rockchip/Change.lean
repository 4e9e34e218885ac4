import DrmSurface.Proofs.OneBuffer
import DrmSurface.Proofs.Rockchip.Creation

/-!
# How operations of the Rockchip driver change its pool

Every operation leaves the pool as it is, or it changes the pool at one
buffer.  A buffer never changes while it is in the pool, apart from its
mapping.

There are four groups.

* `Sound`, what holds of every buffer from its admission on.  `Mapped` and
  `Unmapped` are the only ways in which a buffer changes, and `Remapped` holds
  of both.
* Admission, which adds one sound buffer under the next id.
* `perform_effect`, what an operation does to the pool, with its consequences
  `perform_turnover` and `perform_change`.
* Histories from `new` on: the buffers are numbered, recorded and sound.
  `playLife` makes sample lives.
-/

namespace DrmSurface.Rockchip

open Prog
open Attempt hiding asks_pure ensures_bind_iff ensures_pure_iff

/-! ## Buffers -/

/-- What holds of a buffer with an id as long as it is in the pool. -/
structure Sound (id : BufferId) (b : Buffer) : Prop where
  id_eq : b.surface.id = id
  /-- The geometry is the one that is computed for the size and the format. -/
  laidOut : ∃ desc, Geometry.compute .rockchip desc = .ok b.surface.geometry ∧
    desc.format = b.surface.format ∧ desc.width = b.surface.width ∧
    desc.height = b.surface.height
  nativeFormat_eq : b.nativeFormat = b.surface.geometry.layout.native.getD 0
  /-- The engine's view shows the buffer as it is. -/
  view_eq : ∀ {view}, b.view = some view → view = viewOf b view.handle
  /-- The engine has imported the prime descriptor of the buffer. -/
  shared : b.view.isSome → b.surface.prime.isSome
  /-- The engine counts all rows of the buffer. -/
  counted : b.view.isSome → b.surface.rows < UInt32.size

/-- A buffer as it comes into the pool: sound and not mapped. -/
def Admitted (id : BufferId) (b : Buffer) : Prop := Sound id b ∧ b.surface.mapping = none

/-- The two buffers differ in their mappings at most. -/
def Remapped (b b' : Buffer) : Prop :=
  b' = { b with surface := { b.surface with mapping := b'.surface.mapping } }

/-- A buffer with another mapping, or with none. -/
def Buffer.withMapping (b : Buffer) (mapping : Option Mapping) : Buffer :=
  { b with surface := { b.surface with mapping } }

/-- A buffer without a mapping gets one that is as long as its bytes. -/
structure Mapped (b : Buffer) (m : Mapping) (b' : Buffer) : Prop where
  mapping_eq : b.surface.mapping = none
  length_eq : m.length = b.surface.geometry.size
  result_eq : b' = b.withMapping (some m)

/-- A buffer loses its mapping. -/
structure Unmapped (b : Buffer) (m : Mapping) (b' : Buffer) : Prop where
  mapping_eq : b.surface.mapping = some m
  result_eq : b' = b.withMapping none

theorem remapped_of_switched {b b' : Buffer} (h : Pool.Switched Mapped Unmapped b b') :
    Remapped b b' := by
  obtain ⟨m, h | h⟩ := h <;> rw [h.result_eq] <;> rfl

/-- If the engine has a view of the buffer, then the calls show how the engine
has imported the descriptor and the shape of the buffer. -/
def Imported (t : List Exchange) (b : Buffer) : Prop :=
  ∀ view, b.view = some view → ∃ fd, b.surface.prime = some fd ∧
    ⟨.engine (.importBuffer fd b.surface.width
      (b.surface.height + b.surface.geometry.headerRows) b.nativeFormat), .ok view.handle⟩ ∈ t

theorem Imported.remapped {t : List Exchange} {b b' : Buffer} (h : Remapped b b')
    (imported : Imported t b) : Imported t b' := by
  rw [h]
  exact imported

theorem Imported.mono {t t' : List Exchange} {b : Buffer} (imported : Imported t b)
    (h : ∀ x ∈ t, x ∈ t') : Imported t' b := by
  intro view hview
  obtain ⟨fd, hfd, hmem⟩ := imported view hview
  exact ⟨fd, hfd, h _ hmem⟩

theorem Remapped.view_eq {b b' : Buffer} (h : Remapped b b') : b'.view = b.view := by
  rw [h]

theorem Remapped.trans {b₁ b₂ b₃ : Buffer} (h₁ : Remapped b₁ b₂) (h₂ : Remapped b₂ b₃) :
    Remapped b₁ b₃ := by
  rw [Remapped] at h₁ h₂ ⊢
  rw [h₂, h₁]

theorem Sound.remapped {id : BufferId} {b b' : Buffer} (h : Remapped b b') (sound : Sound id b) :
    Sound id b' := by
  obtain ⟨h₁, h₂, h₃, h₄, h₅, h₆⟩ := sound
  rw [h]
  exact ⟨h₁, h₂, h₃, h₄, h₅, h₆⟩

/-! ## Admission -/

theorem share_ensures (b : Buffer) : (share b).Ensures fun _ b' =>
    b' = { b with surface := { b.surface with prime := b'.surface.prime } } := by
  unfold share
  split
  · exact ensures_pure_iff.2 rfl
  · simp only [ensures_bind_iff, Device.ensures_primeHandleToFd_iff, ensures_log_iff,
      ensures_pure_iff, implies_true, and_true]

theorem importView_surface (b : Buffer) :
    (importView b).Ensures fun _ b' => b'.surface = b.surface :=
  ensures_importView_iff.2 ⟨fun _ => rfl, fun _ _ _ => ⟨fun _ => rfl, fun _ => rfl⟩⟩

theorem importView_ensures {id : BufferId} {b : Buffer} (sound : Sound id b)
    (hview : b.view = none) :
    (importView b).Ensures fun t b' => Sound id b' ∧ Imported t b' ∧ b'.surface = b.surface := by
  have hnothing : ∀ t, Imported t b := by
    intro t view h
    rw [hview] at h
    cases h
  refine ensures_importView_iff.2 ⟨fun _ => ⟨sound, hnothing _, rfl⟩, fun fd hfd hfits =>
    ⟨fun handle => ⟨⟨sound.id_eq, sound.laidOut, sound.nativeFormat_eq, fun h => ?_, fun _ => ?_,
      fun _ => hfits⟩, fun view h => ?_, rfl⟩, fun _ => ⟨sound, hnothing _, rfl⟩⟩⟩
  · cases h
    rfl
  · simp [hfd]
  · cases h
    exact ⟨fd, hfd, List.mem_singleton_self _⟩

/-- The buffer that an origin becomes is sound before the engine knows it. -/
theorem Origin.sound {origin : Origin} {id : BufferId} {desc : SurfaceDesc} {g : Geometry}
    (hg : Geometry.compute .rockchip desc = .ok g) : Sound id (origin.buffer id desc g) where
  id_eq := rfl
  laidOut := ⟨desc, hg, rfl, rfl, rfl⟩
  nativeFormat_eq := rfl
  view_eq h := by cases h
  shared h := by cases h
  counted h := by cases h

theorem wrap_ensures {origin : Origin} {id : BufferId} {desc : SurfaceDesc} {g : Geometry}
    (hg : Geometry.compute .rockchip desc = .ok g) :
    (wrap (origin.buffer id desc g)).Ensures fun t b' => Admitted id b' ∧ Imported t b' := by
  rw [wrap, ensures_bind_iff]
  refine (share_ensures _).mono fun t b hb => ?_
  have sound : Sound id b := by
    have horigin : Sound id (origin.buffer id desc g) := origin.sound hg
    obtain ⟨h₁, h₂, h₃, h₄, -, -⟩ := horigin
    rw [hb]
    exact ⟨h₁, h₂, h₃, h₄, fun h => absurd h Bool.false_ne_true,
      fun h => absurd h Bool.false_ne_true⟩
  have hview : b.view = none := by rw [hb]; rfl
  have hmapping : b.surface.mapping = none := by rw [hb]; rfl
  refine (importView_ensures sound hview).mono fun t' b' h => ?_
  obtain ⟨sound', imported, hsurface⟩ := h
  refine ⟨⟨sound', ?_⟩, imported.mono fun x hx => List.mem_append_right _ hx⟩
  rw [hsurface, hmapping]

/-- Admission gives out the next id, under which it adds one buffer. -/
def Admits (pool : State) (t : List Exchange) (r : BufferId × State) : Prop :=
  r.1 = pool.nextId ∧ ∃ b, Admitted pool.nextId b ∧ Imported t b ∧ r.2 = pool.add b

theorem admitted_ensures {pool : State} {origin : Origin} {desc : SurfaceDesc} {g : Geometry}
    (hg : Geometry.compute .rockchip desc = .ok g) :
    (admitted pool origin desc g).Ensures (Admits pool) := by
  simp only [admitted, ensures_bind_iff, ensures_log_iff, ensures_pure_iff]
  refine (wrap_ensures hg).mono fun t b h => ⟨rfl, b, h.1, h.2.mono fun x hx => ?_, rfl⟩
  simp [hx]

/-! ## Operations -/

/-- What an operation can do to a pool of this driver. -/
abbrev Effect (pool : State) : Episode → State → Prop :=
  Pool.Effect Admitted Mapped Unmapped pool

variable {pool : State}

theorem map_yields {id : BufferId} :
    (map pool id).Yields fun r => ∃ b b' m, pool.get? id = some b ∧ Mapped b m b' ∧
      r = (m.start, pool.set id b') := by
  refine yields_ofOption.bind fun b hb => ?_
  split
  · exact yields_throw
  · rename_i hmapped
    have hmapping : b.surface.mapping = none := by
      simpa [Surface.isMapped] using hmapped
    refine yields_bind_of_forall fun place => ?_
    refine (yields_lift Device.map_length).bind fun outcome hlength => ?_
    refine yields_orRefuse.bind fun m hm => yields_pure ⟨b, _, m, hb, ?_, rfl⟩
    exact ⟨hmapping, hlength m hm, rfl⟩

theorem map_effect {id : BufferId} :
    (commit pool (map pool id)).Ensures fun t r => Effect pool ⟨.map id, t, r.1⟩ r.2 :=
  Pool.map_effect map_yields

theorem unmap_eq (id : BufferId) : unmap pool id = pool.unmapWith (·.surface.mapping)
    (·.withMapping none) (fun e => notice (.unmapFailed e)) id := by
  unfold unmap Pool.unmapWith
  cases pool.get? id with
  | none => rfl
  | some b =>
    dsimp only
    cases b.surface.mapping <;> rfl

theorem unmap_effect {id : BufferId} :
    (unmap pool id).Ensures fun t r => Effect pool ⟨.unmap id, t, r.1⟩ r.2 := by
  rw [unmap_eq]
  exact Pool.unmapWith_effect fun hm => ⟨hm, rfl⟩

theorem isFree_of_detaches {c : Call} (h : c.detaches) : c.isFree = false := by
  cases c with
  | ioctl => cases h
  | _ => rfl

/-- A buffer is released with one request to free its object. -/
theorem release_ensures {b : Buffer} : (release pool b).Ensures (Pool.Released pool) := by
  have hquiet : ∀ {p : Prog Unit}, Asks (·.detaches) p → p.Ensures fun t _ => freeings t = [] :=
    fun h t a run => freeings_eq_nil fun x hx => isFree_of_detaches (h t a run x hx)
  refine ensures_bind_iff.2 ((hquiet releaseMapping_asks).mono fun t₁ _ h₁ => ?_)
  refine ensures_bind_iff.2 ((hquiet releaseView_asks).mono fun t₂ _ h₂ => ?_)
  refine ensures_bind_iff.2 ((hquiet releasePrime_asks).mono fun t₃ _ h₃ => ?_)
  have hlast : ∀ t, freeings (t₁ ++ (t₂ ++ (t₃ ++ t))) = freeings t := by
    intro t
    simp [h₁, h₂, h₃]
  refine ensures_bind_iff.2 (Device.ensures_ioctl_iff.2 (forall_except_iff.2 ⟨?_, ?_⟩))
  · exact fun _ => ensures_bind_iff.2 (ensures_log_iff.2 (ensures_pure_iff.2 (.inr ⟨rfl, hlast _⟩)))
  · exact fun _ => ensures_bind_iff.2 (ensures_log_iff.2 (ensures_pure_iff.2 (.inl ⟨rfl, hlast _⟩)))

theorem releases : Pool.Releases release releaseAll :=
  ⟨fun _ => rfl, fun _ _ _ => rfl, fun _ _ => release_ensures⟩

theorem destroy_eq (id : BufferId) : destroy pool id = pool.destroyWith release id := by
  unfold destroy Pool.destroyWith
  cases pool.get? id <;> rfl

theorem destroy_effect {id : BufferId} :
    (destroy pool id).Ensures fun t r => Effect pool ⟨.destroy id, t, r.1⟩ r.2 := by
  rw [destroy_eq]
  exact Pool.destroyWith_effect releases.released

section Change

variable {pool' : State} {e : Episode}

theorem Creation.effect (h : Creation pool e pool') (hop : e.op.isCreation) :
    Effect pool e pool' := by
  have untorn : ∀ id, e.op ≠ .unmap id := by
    intro id hunmap
    rw [hunmap] at hop
    cases hop
  cases h with
  | admitted created _ laidOut run =>
    obtain ⟨hid, b, hb, -, hpool⟩ := admitted_ensures laidOut _ _ run
    obtain rfl : pool' = pool.add b := hpool
    exact .added (created.trans (congrArg some hid)) hb
  | refused _ => exact .failed fun id _ h => absurd h (untorn id)
  | givenBack _ => exact .failed fun id _ h => absurd h (untorn id)

/-- What an operation does to the pool. -/
theorem perform_effect (h : Step perform pool e pool') : Effect pool e pool' := by
  by_cases hop : e.op.isCreation
  · exact (perform_creation hop h).effect hop
  · obtain ⟨op, trace, result⟩ := e
    cases op with
    | create | importHandle | importName | importPrime => exact absurd rfl hop
    | map id => exact map_effect _ _ h
    | unmap id => exact unmap_effect _ _ h
    | destroy id => exact destroy_effect _ _ h
    | flush =>
      obtain ⟨-, heq⟩ := runs_done_iff.1 h
      cases heq
      exact .observed rfl
    | exportPrime | fillRect | checkBlit | blit | copy | rotate | flip =>
      obtain rfl : pool' = pool := (run_of_observe h).2
      exact .observed rfl

/-- Every operation leaves the pool as it is or changes it at one buffer. -/
theorem perform_turnover (h : Step perform pool e pool') :
    Pool.Turnover Admitted Remapped pool e.created? e.destroyed? pool' :=
  (perform_effect h).turnover.mono remapped_of_switched

/-- What the engine knows of a new buffer it has imported in its creation. -/
theorem imported_of_created {id : BufferId} {b : Buffer} (h : Step perform pool e pool')
    (hid : e.created? = some id) (hb : pool'.get? id = some b) : Imported e.trace b := by
  have hop : e.op.isCreation := by
    obtain ⟨op, t, result⟩ := e
    cases op <;> first | rfl | cases hid
  have hcreation := perform_creation hop h
  cases hcreation with
  | admitted created calls laidOut run =>
    obtain ⟨hnext, b₁, -, imported, hpool⟩ := admitted_ensures laidOut _ _ run
    obtain rfl : pool' = pool.add b₁ := hpool
    cases hid.symm.trans created
    obtain rfl : id = pool.nextId := hnext
    obtain rfl : b₁ = b := by simpa using hb
    rw [calls]
    exact imported.mono fun x hx => List.mem_append_right _ hx
  | refused _ | givenBack _ =>
    rw [Episode.created?_of_error] at hid
    cases hid

theorem perform_change (h : Step perform pool e pool') :
    Pool.Change Admitted Remapped pool e.created? pool' :=
  (perform_turnover h).change

/-- The engine has no access to the pool. -/
theorem pool_eq_of_isAccelerated (h : Step perform pool e pool') (hop : e.op.isAccelerated) :
    pool' = pool := by
  obtain ⟨op, trace, result⟩ := e
  cases op with
  | fillRect | checkBlit | blit | copy | rotate | flip => exact (run_of_observe h).2
  | _ => cases hop

end Change

/-! ## Histories -/

/-- A driver that `new` has made has the pool after the operations of a
history. -/
def Reached (opening : List Exchange) (history : List Episode) (pool : State) : Prop :=
  ∃ start, new.Runs opening start ∧ Ran perform start history pool

/-- All calls that a driver makes, from `new` on until now or, once it has
ended, until the end of its teardown. -/
inductive Life : List Episode → List Exchange → Prop where
  | going {opening : List Exchange} {history : List Episode} {pool : State}
      (reached : Reached opening history pool) : Life history (opening ++ callsOf history)
  | ended {opening closing : List Exchange} {history : List Episode} {pool : State}
      (reached : Reached opening history pool) (torn : (teardown pool).Runs closing ()) :
      Life history (opening ++ callsOf history ++ closing)

/-- A new driver has no buffers. -/
theorem new_ensures : new.Ensures fun _ start => start = ∅ := by
  refine ensures_bind_of_forall fun info => ?_
  cases info with
  | none => exact ensures_pure_iff.2 rfl
  | some text => exact ensures_bind_of_forall fun _ => ensures_pure_iff.2 rfl

variable {opening : List Exchange} {history : List Episode} {id : BufferId} {b : Buffer}

theorem Reached.ran (h : Reached opening history pool) : Ran perform ∅ history pool := by
  obtain ⟨start, hnew, hran⟩ := h
  rwa [← new_ensures _ _ hnew]

theorem Reached.numbered (h : Reached opening history pool)
    (few : creations history ≤ BufferId.count) : pool.Numbered (creations history) :=
  Pool.numbered_of_ran perform_change h.ran few

theorem Reached.recorded (h : Reached opening history pool)
    (few : creations history ≤ BufferId.count) : pool.Recorded history :=
  Pool.recorded_of_ran perform_turnover h.ran few

/-- Every buffer of a driver is sound. -/
theorem Reached.sound (h : Reached opening history pool) (hb : pool.get? id = some b) :
    Sound id b :=
  Pool.forall_buffers_of_ran perform_change And.left Sound.remapped h.ran hb

/-- What the engine knows of a buffer it has imported when the buffer was
created. -/
theorem Reached.imported (h : Reached opening history pool) (hb : pool.get? id = some b) :
    ∃ e ∈ history, e.created? = some id ∧ Imported e.trace b := by
  obtain ⟨before, e, after, s, s', b₀, rfl, -, now, hid, hb₀, hsame⟩ :=
    Pool.born_of_ran perform_change (fun _ => rfl) Remapped.trans h.ran hb
  exact ⟨e, by simp, hid, (imported_of_created now hid hb₀).remapped hsame⟩

/-- A buffer that was there before some operations, and is there afterwards,
may have been mapped or unmapped and is the same otherwise. -/
theorem remapped_of_ran {n : Nat} {pool' : State} {between : List Episode} {b' : Buffer}
    (run : Ran perform pool between pool') (hpool : pool.Numbered n)
    (few : n + creations between ≤ BufferId.count) (hb : pool.get? id = some b)
    (hb' : pool'.get? id = some b') : Remapped b b' := by
  obtain ⟨b₀, hb₀, hsame⟩ := Pool.get?_of_ran perform_change (fun _ => rfl) Remapped.trans run
    hpool few (hpool.le_of_get? hb) hb'
  cases hb.symm.trans hb₀
  exact hsame

/-- A life in a world that answers each call by a fixed rule: the calls of
its three parts, its history, and the pool at the end. -/
def playLife (world : (c : Call) → c.Answer) (ops : List Operation) :
    Option (List Exchange × List Episode × State × List Exchange) := do
  let (opening, start) ← new.play world
  let (history, pool) ← playAll perform world start ops
  let (closing, ()) ← (teardown pool).play world
  return (opening, history, pool, closing)

theorem life_of_playLife {world : (c : Call) → c.Answer} {ops : List Operation}
    {closing : List Exchange} (h : playLife world ops = some (opening, history, pool, closing)) :
    Reached opening history pool ∧ (teardown pool).Runs closing () := by
  simp only [playLife, Option.bind_eq_bind, Option.bind_eq_some_iff, Prod.exists] at h
  obtain ⟨t₁, start, hnew, history', pool', hops, t₂, u, htorn, heq⟩ := h
  cases heq
  exact ⟨⟨start, runs_of_play hnew, ran_of_playAll hops⟩, runs_of_play htorn⟩

theorem answer_of_playLife {world : (c : Call) → c.Answer} {ops : List Operation}
    {closing : List Exchange} (h : playLife world ops = some (opening, history, pool, closing)) :
    ∀ x ∈ opening ++ callsOf history ++ closing, x.answer = world x.call := by
  simp only [playLife, Option.bind_eq_bind, Option.bind_eq_some_iff, Prod.exists] at h
  obtain ⟨t₁, start, hnew, history', pool', hops, t₂, u, htorn, heq⟩ := h
  cases heq
  intro x hx
  rcases List.mem_append.1 hx with hx | hx
  · rcases List.mem_append.1 hx with hx | hx
    · exact answer_of_play hnew x hx
    · exact answer_of_playAll hops x hx
  · exact answer_of_play htorn x hx

end DrmSurface.Rockchip
