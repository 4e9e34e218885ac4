import DrmSurface.Proofs.Fault
import DrmSurface.Proofs.Vmwgfx.Change

/-!
# What the vmwgfx driver logs of failed calls

Every operation of the driver logs each call of the device that fails.  An
allocation that the device only wants to be asked for again has not failed.

There are two groups: the operations one by one, and `perform_reports` about all
of them.
-/

namespace DrmSurface.Vmwgfx

open Prog
open Attempt hiding asks_pure ensures_bind_iff ensures_pure_iff reports_pure

variable {pageSize : Nat} {pool pool' : State} {id : BufferId}

/-! ## Operations on buffers -/

theorem create_reports {desc : SurfaceDesc} {placement : Placement} :
    (create pool desc placement).run.Reports := by
  refine reports_bind reports_orRefuse fun g => ?_
  split
  · exact reports_throw
  · refine reports_request Device.owes_vmwAllocDmabuf (fun _ => rfl) fun reply => ?_
    exact reports_bind (reports_lift reports_log) fun _ => Attempt.reports_pure

theorem map_reports : (map pageSize pool id).run.Reports := by
  refine reports_bind reports_ofOption fun b => ?_
  split
  · exact reports_throw
  · split
    · exact reports_bind (reports_lift reports_log) fun _ => reports_throw
    · refine reports_request Device.owes_map (fun _ => rfl) fun m => ?_
      exact reports_bind (reports_lift reports_log) fun _ => Attempt.reports_pure

theorem unmap_reports : (unmap pool id).Reports := by
  rw [unmap_eq]
  exact Pool.unmapWith_reports fun _ => rfl

theorem releaseMapping_reports {b : Buffer} : (releaseMapping b).Reports := by
  unfold releaseMapping
  split
  · exact reports_pure
  · exact Device.owes_unmap.logFailure fun _ => rfl

theorem release_reports {b : Buffer} : (release pool b).Reports := by
  refine releaseMapping_reports.bind fun _ => (Device.owes_ioctl fun _ => rfl).bind ?_ ?_
  · exact fun _ => reports_log.bind fun _ => reports_pure
  · exact fun e => (explains_log rfl).bind fun _ => reports_pure

theorem destroy_reports : (destroy pool id).Reports := by
  rw [destroy_eq]
  exact Pool.destroyWith_reports fun _ _ => release_reports

/-- The end of the driver logs what fails on the way. -/
theorem teardown_reports : (teardown pool).Reports :=
  ensures_reported ((releases.releaseAll_reports (fun _ _ => release_reports) _ _).mono
    fun _ _ h => ⟨h, .granted rfl h⟩)

/-! ## All operations -/

theorem perform_reports {e : Episode} (h : Step (perform pageSize) pool e pool') :
    Reported e.trace := by
  obtain ⟨op, t, result⟩ := e
  cases op with
  | create desc placement => exact reports_commit create_reports _ _ h
  | map id => exact reports_commit map_reports _ _ h
  | unmap id => exact unmap_reports _ _ h
  | destroy id => exact destroy_reports _ _ h
  | importPrime fd size? desc pitch =>
    have hclose : (call (.close fd)).Reports := reports_call fun _ => rfl
    exact hclose.bind (fun _ => reports_pure) _ _ h
  | flush | importHandle | importName | exportPrime | fillRect | checkBlit | blit | copy | rotate
  | flip => exact reports_pure _ _ h

end DrmSurface.Vmwgfx
