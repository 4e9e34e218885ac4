import DrmSurface.Proofs.Store
import DrmSurface.Proofs.Geometry
import DrmSurface.Proofs.Vmwgfx.Change

/-!
# The vmwgfx driver is a store of buffers

Every operation that the driver shares with the other backend is one of
`Store`, with the services that the device has granted and refused.

There are two groups: the operations one by one, and `perform_served` about all
of them.
-/

namespace DrmSurface

theorem Geometry.plain_of_generic {desc : SurfaceDesc} {g : Geometry}
    (h : Geometry.compute .generic desc = .ok g) : g.plain = g := by
  have hnative := FormatTable.native_of_resolveGeneric (Geometry.parts_of_compute h).1
  rw [plain, ← hnative]

namespace Vmwgfx

open Prog
open Attempt hiding asks_pure ensures_bind_iff ensures_pure_iff

variable {pageSize : Nat} {pool pool' : State} {id : BufferId} {desc : SurfaceDesc}
  {placement : Placement}

/-! ## Operations -/

variable (pageSize) in
theorem alloc_services {size : UInt32} : (Device.vmwAllocDmabuf size).Ensures fun t outcome =>
    servicesOf pageSize t = [(.allocate, refusal? outcome)] := by
  intro t outcome run
  obtain ⟨n, rfl⟩ := Device.ensures_vmwAllocDmabuf t outcome run
  have hsettled := Device.isRestart_vmwAllocDmabuf _ outcome run
  have hrestarts : servicesOf pageSize
      (List.replicate n ⟨.ioctl (.vmwAllocDmabuf size 0), .error .restart⟩) = [] := by
    refine servicesOf_eq_nil fun x hx => ?_
    rw [List.eq_of_mem_replicate hx]
    rfl
  rw [servicesOf_append, hrestarts, List.nil_append]
  simp [servicesOf, Exchange.service?, hsettled]

theorem create_served
    (small : ∀ g, Geometry.compute .generic desc = .ok g → g.size < UInt32.size) :
    (commit pool (create pool desc placement)).Ensures fun t r =>
      Pool.Served pageSize (·.surface) pool ⟨.create desc placement, t, r.1⟩ r.2 := by
  rw [ensures_commit_iff, create, ensures_refuse_iff]
  cases hg : Geometry.compute .generic desc with
  | error e => exact Pool.served_create_of_error hg rfl
  | ok g =>
    dsimp only
    rw [if_neg (Nat.not_le.2 (small g hg)), ensures_request_iff]
    refine (alloc_services pageSize).mono fun t outcome ht => ?_
    cases outcome with
    | error e =>
      refine Pool.served_create_of_refused hg ?_
      rw [servicesOf_append, ht]
      rfl
    | ok reply =>
      refine Attempt.ensures_bind_iff.2 (ensures_lift_iff.2 (ensures_log_iff.2 ?_))
      refine Attempt.ensures_pure_iff.2 (Pool.served_create hg ?_ ?_)
      · rw [servicesOf_append, ht]
        rfl
      · simp only [Surface.ofDesc, Surface.plain, Geometry.plain_of_generic hg, Option.map_none]

theorem map_served (sized : ∀ b, pool.get? id = some b → 0 < b.surface.geometry.size) :
    (commit pool (map pageSize pool id)).Ensures fun t r =>
      Pool.Served pageSize (·.surface) pool ⟨.map id, t, r.1⟩ r.2 := by
  refine Pool.map_served fun b found _ => ?_
  split
  · rename_i hmisaligned
    refine Attempt.ensures_bind_iff.2 (ensures_lift_iff.2 (ensures_log_iff.2 ?_))
    refine ensures_throw_iff.2 ⟨_, _, rfl, ?_⟩
    simp [servicesOf, Exchange.service?, notice, hmisaligned]
  · refine ensures_request_iff.2
      ((Device.map_services pageSize (sized b found)).mono fun t outcome h => ?_)
    cases outcome with
    | error e =>
      refine ⟨_, _, rfl, ?_⟩
      dsimp only at h
      -- No mapping is asked for at a place out of reach, and the notice counts instead.
      split at h
      · rename_i hfar
        obtain ⟨rfl, rfl⟩ := h
        simp [servicesOf, Exchange.service?, notice, hfar]
      · rename_i hnear
        rw [servicesOf_append, h]
        simp [servicesOf, Exchange.service?, notice, hnear]
    | ok m =>
      obtain ⟨hlength, -, ht⟩ := h
      refine Attempt.ensures_bind_iff.2 (ensures_lift_iff.2 (ensures_log_iff.2 ?_))
      refine Attempt.ensures_pure_iff.2 ⟨?_, _, rfl, ?_⟩
      · rw [servicesOf_append, ht]
        rfl
      · simp only [Surface.plain, Option.map_some, hlength]

theorem unmap_served : (unmap pool id).Ensures fun t r =>
    Pool.Served pageSize (·.surface) pool ⟨.unmap id, t, r.1⟩ r.2 := by
  rw [unmap_eq]
  exact Pool.unmapWith_served (fun _ => rfl) fun _ => rfl

theorem release_served : Pool.ReleaseServed pageSize (·.surface) release := by
  intro pool b
  have hmapping : (releaseMapping b).Ensures fun t _ => ∃ refused, servicesOf pageSize t =
      if b.surface.isMapped then [(.unmap, refused)] else []  :=
    Device.unmap_services pageSize fun _ => rfl
  refine ensures_bind_iff.2 (hmapping.mono fun t _ ht => ?_)
  obtain ⟨unmapped, ht⟩ := ht
  refine ensures_bind_iff.2 (Device.ensures_ioctl_iff.2 (forall_except_iff.2 ⟨?_, ?_⟩))
  · intro _
    refine ensures_bind_iff.2 (ensures_log_iff.2 (ensures_pure_iff.2 ⟨unmapped, none, ?_, rfl⟩))
    rw [servicesOf_append, ht]
    rfl
  · intro e
    refine ensures_bind_iff.2 (ensures_log_iff.2 (ensures_pure_iff.2 ⟨unmapped, some e, ?_, rfl⟩))
    rw [servicesOf_append, ht]
    rfl

theorem destroy_served : (destroy pool id).Ensures fun t r =>
    Pool.Served pageSize (·.surface) pool ⟨.destroy id, t, r.1⟩ r.2 := by
  rw [destroy_eq]
  exact Pool.destroyWith_served release_served

/-! ## All operations -/

/-- Every operation that all backends have is one of the store. -/
theorem perform_served {e : Episode} (common : e.op.IsCommon)
    (sized : ∀ id b, pool.get? id = some b → 0 < b.surface.geometry.size)
    (now : Step (perform pageSize) pool e pool') :
    Pool.Served pageSize (·.surface) pool e pool' := by
  obtain ⟨op, t, result⟩ := e
  cases op with
  | create desc placement => exact create_served common.2.2 _ _ now
  | map id => exact map_served (sized id) _ _ now
  | unmap id => exact unmap_served _ _ now
  | destroy id => exact destroy_served _ _ now
  | _ => cases common

end Vmwgfx

end DrmSurface
