import DrmSurface.Proofs.Driver
import DrmSurface.Proofs.Rockchip.Stop

/-!
# Operations that stop

The vmwgfx driver counts no rows in a word and never stops.  The Rockchip driver
stops where it shares a buffer with the engine, and then nothing is left of the
buffer but its id, which the next buffer will not have.

There are two groups.

* The vmwgfx driver.
* Drivers of either backend.  `Driver.perform_aborts_iff` says which operations stop,
  and `Driver.stopped_of_aborts` what they leave behind.
-/

namespace DrmSurface

namespace Vmwgfx

open Prog
open Attempt hiding safe_pure

variable {pageSize : Nat} {pool : State} {id : BufferId}

theorem create_safe {desc : SurfaceDesc} {placement : Placement} :
    (create pool desc placement).run.Safe := by
  refine safe_bind safe_orRefuse fun g => ?_
  split
  · exact safe_throw
  · refine safe_bind (safe_lift (safe_retry fun _ => safe_pure)) fun answer => ?_
    refine safe_bind safe_orRefuse fun reply => ?_
    exact safe_bind (safe_lift safe_call) fun _ => Attempt.safe_pure

theorem map_safe : (map pageSize pool id).run.Safe := by
  refine safe_bind safe_ofOption fun b => ?_
  split
  · exact safe_throw
  · split
    · exact safe_bind (safe_lift safe_call) fun _ => safe_throw
    · refine safe_bind (safe_lift Device.map_safe) fun answer => ?_
      refine safe_bind safe_orRefuse fun m => ?_
      exact safe_bind (safe_lift safe_call) fun _ => Attempt.safe_pure

theorem unmap_safe : (unmap pool id).Safe := by
  rw [unmap_eq]
  exact Pool.unmapWith_safe

theorem release_safe (pool : State) (b : Buffer) : (release pool b).Safe := by
  have hmapping : (releaseMapping b).Safe := by
    unfold releaseMapping
    split
    · exact safe_pure
    · exact safe_call.bind fun _ => safe_logFailure
  refine hmapping.bind fun _ => safe_call.bind fun outcome => ?_
  cases outcome <;> exact safe_call.bind fun _ => safe_pure

theorem destroy_safe : (destroy pool id).Safe := by
  rw [destroy_eq]
  exact Pool.destroyWith_safe release_safe

theorem perform_safe {op : Operation} : (perform pageSize pool op).Safe := by
  cases op with
  | create desc placement => exact safe_commit create_safe
  | map id => exact safe_commit map_safe
  | unmap id => exact unmap_safe
  | destroy id => exact destroy_safe
  | importPrime fd size? desc pitch => exact safe_call.bind fun _ => safe_pure
  | flush | importHandle | importName | exportPrime | fillRect | checkBlit | blit | copy | rotate
  | flip => exact safe_pure

end Vmwgfx

namespace Driver

variable {pageSize : Nat} {d : Driver} {op : Operation} {t : List Prog.Exchange} {cause : Panic}

/-- An operation stops if and only if it is one of the Rockchip driver, which has come by
a descriptor for a buffer whose rows a word does not hold. -/
theorem perform_aborts_iff : (d.perform pageSize op).Aborts t cause ↔
    ∃ pool, d = .rockchip pool ∧ Rockchip.Stops pool op t := by
  cases d with
  | vmwgfx pool =>
    refine iff_of_false (Vmwgfx.perform_safe.bind (fun _ => Prog.safe_pure) t cause) ?_
    rintro ⟨_, hd, -⟩
    cases hd
  | rockchip pool =>
    have hpool : ((rockchip pool).perform pageSize op).Aborts t cause ↔
        (Rockchip.perform pool op).Aborts t cause :=
      Prog.aborts_bind_iff_of_safe fun _ => Prog.safe_pure
    rw [hpool, Rockchip.perform_aborts_iff]
    constructor
    · intro stops
      exact ⟨pool, rfl, stops⟩
    · rintro ⟨_, hd, stops⟩
      cases hd
      exact stops

/-- An operation that stops has announced a buffer under the next id.  Its driver keeps
the buffers that it had, and the next one will not have this id. -/
theorem stopped_of_aborts (stops : (d.perform pageSize op).Aborts t cause) :
    d.stopped.ids = d.ids ∧ d.stopped.live = d.live ∧
      (∀ id, d.stopped.buffer? id = d.buffer? id) ∧
      ∃ pool desc g handle, d = .rockchip pool ∧ d.stopped = .rockchip pool.skip ∧
        op.desc? = some desc ∧ UInt32.size ≤ desc.height.toNat + g.headerRows.toNat ∧
        ⟨.log (Rockchip.notice (.created pool.nextId handle desc g)), ()⟩ ∈ t ∧
        pool.skip.nextId = pool.nextId.next := by
  obtain ⟨pool, rfl, desc, g, origin, _, _, _, granting, -, hlarge, rfl⟩ :=
    perform_aborts_iff.1 stops
  exact ⟨rfl, rfl, fun _ => rfl, pool, desc, g, origin.handle, rfl, rfl, granting.desc_eq, hlarge,
    List.mem_append_right _ List.mem_cons_self, rfl⟩

end Driver

end DrmSurface
