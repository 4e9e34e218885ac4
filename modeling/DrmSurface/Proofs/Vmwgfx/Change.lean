import DrmSurface.Driver.Vmwgfx
import DrmSurface.Proofs.OneBuffer

/-!
# How operations of the vmwgfx driver change its pool

Every operation leaves the pool as it is, or it changes the pool at one
buffer.  Of a buffer in the pool only the mapping and the count of mappings
change.

There are four groups.

* `Admitted`, what a buffer is when it comes into the pool.  `Mapped` and
  `Unmapped` are the only ways in which it changes afterwards, `Remapped` holds
  of both, and both keep it `Tallied`.
* Creation, which asks for an object and then cannot fail.
* The other operations that the driver has, one by one.
* `perform_effect`, what an operation does to the pool, with its consequence
  `perform_turnover`.
-/

namespace DrmSurface.Vmwgfx

open Prog
open Attempt hiding asks_pure ensures_bind_iff ensures_pure_iff

/-! ## Buffers -/

/-- A buffer as it comes into the pool: laid out as computed and not mapped. -/
structure Admitted (id : BufferId) (b : Buffer) : Prop where
  id_eq : b.surface.id = id
  laidOut : ∃ desc, Geometry.compute .generic desc = .ok b.surface.geometry ∧
    desc.format = b.surface.format ∧ desc.width = b.surface.width ∧
    desc.height = b.surface.height
  mapping_eq : b.surface.mapping = none
  mapCount_eq : b.mapCount = 0

/-- The two buffers differ in their mappings at most. -/
def Remapped (b b' : Buffer) : Prop :=
  b' = { b with surface := { b.surface with mapping := b'.surface.mapping }
                mapCount := b'.mapCount }

/-- A buffer with another mapping and another count of mappings. -/
def Buffer.withMapping (b : Buffer) (mapping : Option Mapping) (mapCount : UInt32) : Buffer :=
  { b with surface := { b.surface with mapping }, mapCount }

/-- A buffer without a mapping gets one that is as long as its bytes. -/
structure Mapped (b : Buffer) (m : Mapping) (b' : Buffer) : Prop where
  mapping_eq : b.surface.mapping = none
  length_eq : m.length = b.surface.geometry.size
  result_eq : b' = b.withMapping (some m) (countUp b.mapCount)

/-- A buffer loses its mapping. -/
structure Unmapped (b : Buffer) (m : Mapping) (b' : Buffer) : Prop where
  mapping_eq : b.surface.mapping = some m
  result_eq : b' = b.withMapping none (countDown b.mapCount)

theorem remapped_of_switched {b b' : Buffer} (h : Pool.Switched Mapped Unmapped b b') :
    Remapped b b' := by
  obtain ⟨m, h | h⟩ := h <;> rw [h.result_eq] <;> rfl

/-- The count of mappings is one for a mapped buffer, and otherwise zero. -/
def Tallied (b : Buffer) : Prop := b.mapCount = if b.surface.isMapped then 1 else 0

theorem Tallied.switched {b b' : Buffer} (h : Pool.Switched Mapped Unmapped b b')
    (tallied : Tallied b) : Tallied b' := by
  obtain ⟨m, h | h⟩ := h
  · have hcount : b.mapCount = 0 := by
      simpa [Tallied, Surface.isMapped, h.mapping_eq] using tallied
    rw [h.result_eq, Buffer.withMapping, hcount]
    exact (by decide : countUp 0 = 1)
  · have hcount : b.mapCount = 1 := by
      simpa [Tallied, Surface.isMapped, h.mapping_eq] using tallied
    rw [h.result_eq, Buffer.withMapping, hcount]
    exact (by decide : countDown 1 = 0)

variable {pageSize : Nat} {pool pool' : State} {id : BufferId}

/-! ## Creation -/

/-- The outcome of a creation: it adds one buffer under the next id, or it is
refused. -/
def Created (pool : State) (t : List Exchange) : Except DriverError BufferId × State → Prop
  | (.ok id, pool') => id = pool.nextId ∧ ∃ b, Admitted pool.nextId b ∧ pool' = pool.add b
  | (.error error, pool') => pool' = pool ∧ Refusal t error

theorem create_created {desc : SurfaceDesc} {placement : Placement} :
    (commit pool (create pool desc placement)).Ensures (Created pool) := by
  rw [ensures_commit_iff, create, ensures_refuse_iff]
  cases hg : Geometry.compute .generic desc with
  | error e => exact ⟨rfl, .of_early (by simp [Call.isDeviceCall])⟩
  | ok g =>
    dsimp only
    split
    · exact ensures_throw_iff.2 ⟨rfl, .of_early (by simp)⟩
    · refine ensures_request_iff.2 (Device.ensures_vmwAllocDmabuf.mono fun t outcome h => ?_)
      obtain ⟨n, rfl⟩ := h
      cases outcome with
      | ok reply =>
        refine Attempt.ensures_bind_iff.2 (ensures_lift_iff.2 (ensures_log_iff.2 ?_))
        refine Attempt.ensures_pure_iff.2 ⟨rfl, _, ?_, rfl⟩
        exact ⟨rfl, ⟨desc, hg, rfl, rfl, rfl⟩, rfl, rfl⟩
      | error e =>
        refine ⟨rfl, .of_device (acquired_eq_zero fun x hx => ?_) rfl⟩
        simp only [List.mem_append, List.mem_replicate, List.mem_singleton] at hx
        rcases hx with (⟨-, rfl⟩ | rfl) | rfl <;> rfl

/-! ## Operations -/

/-- What an operation can do to a pool of this driver. -/
abbrev Effect (pool : State) : Episode → State → Prop :=
  Pool.Effect Admitted Mapped Unmapped pool

theorem map_yields :
    (map pageSize pool id).Yields fun r => ∃ b b' m, pool.get? id = some b ∧ Mapped b m b' ∧
      r = (m.start, pool.set id b') := by
  refine yields_ofOption.bind fun b hb => ?_
  split
  · exact yields_throw
  · rename_i hmapped
    have hmapping : b.surface.mapping = none := by
      simpa [Surface.isMapped] using hmapped
    split
    · exact yields_bind_of_forall fun _ => yields_throw
    · refine (yields_lift Device.map_length).bind fun outcome hlength => ?_
      refine yields_orRefuse.bind fun m hm => yields_bind_of_forall fun _ => ?_
      exact yields_pure ⟨b, _, m, hb, ⟨hmapping, hlength m hm, rfl⟩, rfl⟩

theorem map_effect :
    (commit pool (map pageSize pool id)).Ensures fun t r => Effect pool ⟨.map id, t, r.1⟩ r.2 :=
  Pool.map_effect map_yields

theorem unmap_eq (id : BufferId) : unmap pool id = pool.unmapWith (·.surface.mapping)
    (fun b => b.withMapping none (countDown b.mapCount)) (fun e => notice (.unmapFailed e)) id := by
  unfold unmap Pool.unmapWith
  cases pool.get? id with
  | none => rfl
  | some b =>
    dsimp only
    cases b.surface.mapping <;> rfl

theorem unmap_effect :
    (unmap pool id).Ensures fun t r => Effect pool ⟨.unmap id, t, r.1⟩ r.2 := by
  rw [unmap_eq]
  exact Pool.unmapWith_effect fun hm => ⟨hm, rfl⟩

theorem releaseMapping_freeings {b : Buffer} :
    (releaseMapping b).Ensures fun t _ => freeings t = [] := by
  unfold releaseMapping
  split
  · exact ensures_pure_iff.2 rfl
  · refine ensures_bind_iff.2 (Device.ensures_unmap_iff.2 fun answer => ?_)
    refine ensures_logFailure_iff.2 ?_
    cases answer <;> rfl

/-- A buffer is released with one request to free its object. -/
theorem release_ensures {b : Buffer} : (release pool b).Ensures (Pool.Released pool) := by
  refine ensures_bind_iff.2 (releaseMapping_freeings.mono fun t₁ _ h₁ => ?_)
  have hlast : ∀ t, freeings (t₁ ++ t) = freeings t := by
    intro t
    simp [h₁]
  refine ensures_bind_iff.2 (Device.ensures_ioctl_iff.2 (forall_except_iff.2 ⟨?_, ?_⟩))
  · exact fun _ => ensures_bind_iff.2 (ensures_log_iff.2 (ensures_pure_iff.2 (.inr ⟨rfl, hlast _⟩)))
  · exact fun _ => ensures_bind_iff.2 (ensures_log_iff.2 (ensures_pure_iff.2 (.inl ⟨rfl, hlast _⟩)))

theorem releases : Pool.Releases release releaseAll :=
  ⟨fun _ => rfl, fun _ _ _ => rfl, fun _ _ => release_ensures⟩

theorem destroy_eq (id : BufferId) : destroy pool id = pool.destroyWith release id := by
  unfold destroy Pool.destroyWith
  cases pool.get? id <;> rfl

theorem destroy_effect :
    (destroy pool id).Ensures fun t r => Effect pool ⟨.destroy id, t, r.1⟩ r.2 := by
  rw [destroy_eq]
  exact Pool.destroyWith_effect releases.released

/-! ## The change that an operation makes -/

/-- What an operation does to the pool. -/
theorem perform_effect {e : Episode} (h : Step (perform pageSize) pool e pool') :
    Effect pool e pool' := by
  obtain ⟨op, trace, result⟩ := e
  cases op with
  | create desc placement =>
    have hcreated := create_created _ _ h
    cases result with
    | ok id =>
      obtain ⟨hid, b, hb, rfl⟩ := hcreated
      exact .added (congrArg some hid) hb
    | error e =>
      obtain ⟨rfl, -⟩ := hcreated
      exact .failed fun _ _ h => by cases h
  | map id => exact map_effect _ _ h
  | unmap id => exact unmap_effect _ _ h
  | destroy id => exact destroy_effect _ _ h
  | importPrime fd size? desc pitch =>
    obtain ⟨_, _, _, -, -, hrest⟩ := runs_bind_iff.1 h
    obtain ⟨-, heq⟩ := runs_done_iff.1 hrest
    cases heq
    exact .failed fun _ _ h => by cases h
  | importHandle | importName =>
    obtain ⟨-, heq⟩ := runs_done_iff.1 h
    cases heq
    exact .failed fun _ _ h => by cases h
  | flush | exportPrime | fillRect | checkBlit | blit | copy | rotate | flip =>
    obtain ⟨-, heq⟩ := runs_done_iff.1 h
    cases heq
    exact .observed rfl

/-- Every operation leaves the pool as it is or changes it at one buffer. -/
theorem perform_turnover {e : Episode} (h : Step (perform pageSize) pool e pool') :
    Pool.Turnover Admitted Remapped pool e.created? e.destroyed? pool' :=
  (perform_effect h).turnover.mono remapped_of_switched

theorem numbered_of_ran {history : List Episode} (run : Ran (perform pageSize) ∅ history pool)
    (few : creations history ≤ BufferId.count) : pool.Numbered (creations history) :=
  Pool.numbered_of_ran (fun h => (perform_effect h).turnover.change) run few

theorem Admitted.tallied {b : Buffer} (h : Admitted id b) : Tallied b := by
  rw [Tallied, h.mapCount_eq, Surface.isMapped, h.mapping_eq]
  rfl

/-- Every buffer of a driver is tallied. -/
theorem tallied_of_ran {history : List Episode} {b : Buffer}
    (run : Ran (perform pageSize) ∅ history pool)
    (hb : pool.get? id = some b) : Tallied b :=
  Pool.forall_buffers_of_ran (fun h => (perform_effect h).turnover.change) Admitted.tallied
    Tallied.switched run hb

end DrmSurface.Vmwgfx
