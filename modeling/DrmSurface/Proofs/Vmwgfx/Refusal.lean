import DrmSurface.Proofs.Vmwgfx.Change

/-!
# How operations of the vmwgfx driver fail

The driver finds the mistakes of its callers before it asks the device for
anything, and a failed creation has acquired nothing.

There are two groups: the operations on buffers one by one, and
`perform_foundEarly` and `perform_nothing` about all operations.
-/

namespace DrmSurface.Vmwgfx

open Prog
open Attempt hiding asks_pure ensures_bind_iff ensures_pure_iff

variable {pageSize : Nat} {pool pool' : State} {id : BufferId}

/-! ## Operations on buffers -/

theorem map_failsEarly : (map pageSize pool id).FailsEarly := by
  refine failsEarly_bind asks_ofOption fun b => ?_
  split
  · exact failsEarly_throw
  · split
    · exact failsEarly_bind (asks_lift (asks_log fun _ => rfl)) fun _ => failsEarly_throw
    · refine (failsByDevice_lift.bind fun outcome => ?_).failsEarly
      refine (failsByDevice_orRefuse fun _ => rfl).bind fun m => ?_
      exact failsByDevice_lift.bind fun _ => failsByDevice_pure

theorem unmap_foundEarly : (unmap pool id).Ensures fun t r => FoundEarly t r.1 := by
  rw [unmap_eq]
  exact Pool.unmapWith_foundEarly

theorem destroy_foundEarly : (destroy pool id).Ensures fun t r => FoundEarly t r.1 := by
  rw [destroy_eq]
  exact Pool.destroyWith_foundEarly

/-- An operation that the driver does not have makes no calls, but a descriptor
that was handed over is closed. -/
theorem importPrime_calls {fd : Descriptor} {size? : Option Nat} {desc : SurfaceDesc}
    {pitch : UInt32} : (perform pageSize pool (.importPrime fd size? desc pitch)).Ensures fun t _ =>
      t = [⟨.close fd, ()⟩] :=
  ensures_bind_iff.2 (ensures_call_iff.2 fun _ => ensures_pure_iff.2 rfl)

/-! ## All operations -/

variable {op : Operation} {t : List Exchange} {error : DriverError}

/-- A failed creation has acquired nothing. -/
theorem perform_nothing (h : Step (perform pageSize) pool ⟨op, t, .error error⟩ pool')
    (hop : op.isCreation) : acquired t = 0 := by
  cases op with
  | create desc placement => exact (create_created _ _ h).2.nothing
  | importPrime fd size? desc pitch =>
    obtain rfl := importPrime_calls _ _ h
    rfl
  | importHandle | importName =>
    obtain ⟨rfl, -⟩ := runs_done_iff.1 h
    rfl
  | _ => cases hop

/-- An operation that fails by a mistake of its caller has made no calls of the
device. -/
theorem perform_foundEarly (h : Step (perform pageSize) pool ⟨op, t, .error error⟩ pool')
    (misuse : error.isDeviceFailure = false) : ∀ x ∈ t, x.call.isDeviceCall = false := by
  suffices hearly : FoundEarly t (.error error : Except DriverError op.Result) from
    hearly error rfl misuse
  cases op with
  | create desc placement =>
    intro _ herror
    cases herror
    exact (create_created _ _ h).2.early
  | map id => exact map_failsEarly.commit _ _ h
  | unmap id => exact unmap_foundEarly _ _ h
  | destroy id => exact destroy_foundEarly _ _ h
  | importPrime fd size? desc pitch =>
    obtain rfl := importPrime_calls _ _ h
    intro _ _ _ x hx
    rw [List.mem_singleton.1 hx]
    rfl
  | flush | importHandle | importName | exportPrime | fillRect | checkBlit | blit | copy | rotate
  | flip =>
    obtain ⟨rfl, -⟩ := runs_done_iff.1 h
    exact foundEarly_nil

end DrmSurface.Vmwgfx
