import DrmSurface.Proofs.Store
import DrmSurface.Proofs.Rockchip.Change

/-!
# The Rockchip driver is a store of buffers

Every operation that the driver shares with the other backend is one of
`Store`, with the services that the device has granted and refused.  What the
driver asks for beyond them, such as the descriptors of its buffers and the
views of the engine, changes nothing of that, whatever the answers are.

There are three groups.

* The two tables of formats.  A surface that both tables can lay out has one
  layout, up to the code of the engine.
* The operations one by one.
* `perform_served`, about all of them.
-/

namespace DrmSurface

/-! ## Formats -/

/-- The tables agree about the formats that they share. -/
theorem FormatTable.resolveGeneric_of_resolveRockchip {format : Fourcc} {layout : PixelLayout}
    (h : resolveRockchip format = some layout) :
    resolveGeneric format = none ∨ resolveGeneric format = some { layout with native := none } := by
  have hentries : ∀ entry ∈ engineFormats, resolveGeneric entry.1 = none ∨
      resolveGeneric entry.1 = some ⟨8 * entry.2.1, entry.2.1, none⟩ := by decide
  obtain ⟨entry, hfind, rfl⟩ := Option.map_eq_some_iff.1 h
  have hformat : entry.1 = format := by simpa using List.find?_some hfind
  exact hformat ▸ hentries entry (List.mem_of_find?_eq_some hfind)

/-- A surface of a format of both tables has one geometry, or it has none for one reason. -/
theorem Geometry.compute_generic {desc : SurfaceDesc}
    (hgeneric : (FormatTable.resolveGeneric desc.format).isSome)
    (hrockchip : (FormatTable.resolveRockchip desc.format).isSome) :
    Geometry.compute .generic desc = (Geometry.compute .rockchip desc).map Geometry.plain := by
  obtain ⟨layout, hlayout⟩ := Option.isSome_iff_exists.1 hrockchip
  have hplain : FormatTable.resolveGeneric desc.format = some { layout with native := none } := by
    refine (FormatTable.resolveGeneric_of_resolveRockchip hlayout).resolve_left fun hnone => ?_
    rw [hnone] at hgeneric
    cases hgeneric
  simp only [Geometry.compute, FormatTable.resolve, hlayout, hplain]
  split
  · rfl
  · split
    · rfl
    · split <;> rfl

namespace Rockchip

open Prog
open Attempt hiding asks_pure ensures_bind_iff ensures_pure_iff

variable {pageSize : Nat} {pool pool' : State} {id : BufferId} {desc : SurfaceDesc}
  {placement : Placement} {g : Geometry}

/-! ## Operations -/

variable (pageSize) in
/-- Sharing a new buffer with the engine is none of the services, and only the
descriptor of the buffer and its view depend on how it goes. -/
theorem wrap_services {b : Buffer} : (wrap b).Ensures fun t b' =>
    servicesOf pageSize t = [] ∧ b'.surface.plain = b.surface.plain := by
  have hshare : (share b).Ensures fun t _ => servicesOf pageSize t = [] := by
    unfold share
    split
    · exact ensures_pure_iff.2 rfl
    · refine ensures_bind_iff.2 (Device.ensures_primeHandleToFd_iff.2 ⟨?_, ?_, ?_⟩)
      · exact fun _ => ensures_pure_iff.2 rfl
      · exact fun _ _ => ensures_bind_iff.2 (ensures_log_iff.2 (ensures_pure_iff.2 rfl))
      · exact fun _ => ensures_bind_iff.2 (ensures_log_iff.2 (ensures_pure_iff.2 rfl))
  have himport : ∀ b', (importView b').Ensures fun t _ => servicesOf pageSize t = [] := fun _ =>
    ensures_importView_iff.2 ⟨fun _ => rfl, fun _ _ _ => ⟨fun _ => rfl, fun _ => rfl⟩⟩
  refine ensures_bind_iff.2 fun t₁ b₁ run₁ t₂ b₂ run₂ => ⟨?_, ?_⟩
  · rw [servicesOf_append, hshare _ _ run₁, himport _ _ _ run₂]
    rfl
  · rw [importView_surface _ _ _ run₂, share_ensures _ _ _ run₁]
    rfl

theorem create_served (hgeneric : (FormatTable.resolveGeneric desc.format).isSome)
    (hrockchip : (FormatTable.resolveRockchip desc.format).isSome) :
    (commit pool (create pool desc placement)).Ensures fun t r =>
      Pool.Served pageSize (·.surface) pool ⟨.create desc placement, t, r.1⟩ r.2 := by
  have hplain := Geometry.compute_generic hgeneric hrockchip
  rw [ensures_commit_iff, create, ensures_refuse_iff]
  cases hg : Geometry.compute .rockchip desc with
  | error e =>
    rw [hg] at hplain
    exact Pool.served_create_of_error hplain rfl
  | ok g =>
    rw [hg] at hplain
    refine ensures_request_iff.2 (Device.ensures_ioctl_iff.2 (forall_except_iff.2 ⟨?_, ?_⟩))
    · intro handle
      refine ensures_lift_iff.2 ?_
      simp only [admitted, ensures_bind_iff, ensures_log_iff, ensures_pure_iff]
      refine (wrap_services pageSize).mono fun t b h => Pool.served_create hplain ?_ ?_
      · simp only [servicesOf_append, h.1, List.append_nil]
        rfl
      · rw [h.2]
        rfl
    · exact fun e => Pool.served_create_of_refused hplain rfl

variable (pageSize) in
/-- A buffer that has no descriptor is mapped at a place that the device names.  The
mapping has failed if it names none, or one that cannot be mapped. -/
theorem mapSource_services {b : Buffer} : (mapSource b).run.Ensures fun t outcome =>
    match outcome with
    | .ok (_, place) => servicesOf pageSize t =
        if UInt64.size / 2 ≤ place then [(.map, some .valueTooLarge)] else []
    | .error error => ∃ op cause, error = .kernel op cause ∧
        servicesOf pageSize t = [(.map, some cause)] := by
  unfold mapSource
  split
  · exact Attempt.ensures_pure_iff.2 rfl
  · refine ensures_request_iff.2 (Device.ensures_ioctl_iff.2 (forall_except_iff.2 ⟨?_, ?_⟩))
    · intro place
      refine Attempt.ensures_pure_iff.2 ?_
      by_cases hfar : UInt64.size / 2 ≤ place <;> simp [servicesOf, Exchange.service?, hfar]
    · exact fun e => ⟨_, e, rfl, rfl⟩

theorem map_served (sized : ∀ b, pool.get? id = some b → 0 < b.surface.geometry.size) :
    (commit pool (map pool id)).Ensures fun t r =>
      Pool.Served pageSize (·.surface) pool ⟨.map id, t, r.1⟩ r.2 := by
  refine Pool.map_served fun b found _ => ?_
  refine Attempt.ensures_bind_iff.2
    ((mapSource_services pageSize).mono fun t₁ outcome hsource => ?_)
  cases outcome with
  | error error => exact hsource
  | ok place =>
    refine ensures_request_iff.2
      ((Device.map_services pageSize (sized b found)).mono fun t₂ outcome h => ?_)
    dsimp only at hsource
    cases outcome with
    | error e =>
      refine ⟨_, e, rfl, ?_⟩
      dsimp only at h
      -- A place out of reach has been counted when it was named, and no mapping is asked for.
      split at h
      · rename_i hfar
        obtain ⟨rfl, rfl⟩ := h
        rw [servicesOf_append, hsource, if_pos hfar]
        rfl
      · rename_i hnear
        rw [servicesOf_append, servicesOf_append, hsource, if_neg hnear, h]
        rfl
    | ok m =>
      obtain ⟨hlength, hnear, ht⟩ := h
      refine Attempt.ensures_pure_iff.2 ⟨?_, _, rfl, ?_⟩
      · rw [servicesOf_append, hsource, if_neg (Nat.not_le.2 hnear), List.append_nil, ht]
        rfl
      · simp only [Surface.plain, Option.map_some, hlength]

theorem unmap_served : (unmap pool id).Ensures fun t r =>
    Pool.Served pageSize (·.surface) pool ⟨.unmap id, t, r.1⟩ r.2 := by
  rw [unmap_eq]
  exact Pool.unmapWith_served (fun _ => rfl) fun _ => rfl

theorem release_served : Pool.ReleaseServed pageSize (·.surface) release := by
  intro pool b
  have hmapping : (releaseMapping b).Ensures fun t _ => ∃ refused, servicesOf pageSize t =
      if b.surface.isMapped then [(.unmap, refused)] else [] :=
    Device.unmap_services pageSize fun _ => rfl
  have hview : (releaseView b).Ensures fun t _ => servicesOf pageSize t = [] := by
    unfold releaseView
    split
    · exact ensures_pure_iff.2 rfl
    · refine ensures_bind_iff.2 (ensures_call_iff.2 (forall_except_iff.2 ⟨?_, ?_⟩))
      · exact fun _ => ensures_logFailure_iff.2 rfl
      · exact fun _ => ensures_logFailure_iff.2 rfl
  have hprime : (releasePrime b).Ensures fun t _ => servicesOf pageSize t = [] := by
    unfold releasePrime
    split
    · exact ensures_pure_iff.2 rfl
    · exact ensures_call_iff.2 fun _ => rfl
  refine ensures_bind_iff.2 (hmapping.mono fun t₁ _ h₁ => ?_)
  obtain ⟨unmapped, h₁⟩ := h₁
  refine ensures_bind_iff.2 (hview.mono fun t₂ _ h₂ => ?_)
  refine ensures_bind_iff.2 (hprime.mono fun t₃ _ h₃ => ?_)
  have hlast : ∀ t, servicesOf pageSize (t₁ ++ (t₂ ++ (t₃ ++ t))) =
      (if b.surface.isMapped then [(.unmap, unmapped)] else []) ++ servicesOf pageSize t := by
    intro t
    simp only [servicesOf_append, h₁, h₂, h₃, List.nil_append]
  refine ensures_bind_iff.2 (Device.ensures_ioctl_iff.2 (forall_except_iff.2 ⟨?_, ?_⟩))
  · intro _
    refine ensures_bind_iff.2 (ensures_log_iff.2 (ensures_pure_iff.2 ?_))
    exact ⟨unmapped, none, hlast _, rfl⟩
  · intro e
    refine ensures_bind_iff.2 (ensures_log_iff.2 (ensures_pure_iff.2 ?_))
    exact ⟨unmapped, some e, hlast _, rfl⟩

theorem destroy_served : (destroy pool id).Ensures fun t r =>
    Pool.Served pageSize (·.surface) pool ⟨.destroy id, t, r.1⟩ r.2 := by
  rw [destroy_eq]
  exact Pool.destroyWith_served release_served

/-! ## All operations -/

/-- Every operation that all backends have is one of the store. -/
theorem perform_served {e : Episode} (common : e.op.IsCommon)
    (sized : ∀ id b, pool.get? id = some b → 0 < b.surface.geometry.size)
    (now : Step perform pool e pool') : Pool.Served pageSize (·.surface) pool e pool' := by
  obtain ⟨op, t, result⟩ := e
  cases op with
  | create desc placement => exact create_served common.1 common.2.1 _ _ now
  | map id => exact map_served (sized id) _ _ now
  | unmap id => exact unmap_served _ _ now
  | destroy id => exact destroy_served _ _ now
  | _ => cases common

end Rockchip

end DrmSurface
