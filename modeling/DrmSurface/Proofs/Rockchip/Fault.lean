import DrmSurface.Proofs.Fault
import DrmSurface.Proofs.Rockchip.Change

/-!
# What the Rockchip driver logs of failed calls

Each operation of the driver logs every call of the device or the engine that
fails, the calls included whose failure it survives.  One path does not: a
buffer without a descriptor of its own is exported by a request whose refusal is
returned and not logged.

There are four groups.

* Wrapping and creation.
* Mapping, release and the teardown.
* Operations of the engine.
* `SilentExport`, the path that logs nothing, and `perform_reports` about all
  operations.
-/

namespace DrmSurface.Rockchip

open Prog
open Attempt hiding asks_pure ensures_bind_iff ensures_pure_iff reports_pure

variable {pool pool' : State} {id : BufferId}

/-! ## Creation -/

theorem owes_importBuffer {fd : Descriptor} {width height : UInt32} {format : Int} :
    (engine (.importBuffer fd width height format)).Owes Fault.engine :=
  owes_of_answer ensures_call_iff (fun _ => rfl) fun _ => rfl

theorem share_reports {b : Buffer} : (share b).Reports := by
  unfold share
  split
  · exact reports_pure
  · refine Device.owes_primeHandleToFd.bind (fun _ => reports_pure) fun e => ?_
    exact (explains_log rfl).bind fun _ => reports_pure

theorem importView_reports {b : Buffer} : (importView b).Reports := by
  unfold importView
  split
  · exact reports_pure
  · split
    · refine owes_importBuffer.bind (fun _ => reports_pure) fun e => ?_
      exact (explains_log rfl).bind fun _ => reports_pure
    · exact ensures_bind_abort

theorem admitted_reports {origin : Origin} {desc : SurfaceDesc} {g : Geometry} :
    (admitted pool origin desc g).Reports := by
  refine reports_log.bind fun _ => Reports.bind ?_ fun _ => reports_pure
  exact share_reports.bind fun _ => importView_reports

theorem create_reports {desc : SurfaceDesc} {placement : Placement} :
    (create pool desc placement).run.Reports := by
  refine reports_bind reports_orRefuse fun g => ?_
  refine reports_request (Device.owes_ioctl fun _ => rfl) (fun _ => rfl) fun handle => ?_
  exact reports_lift admitted_reports

theorem importHandle_reports {handle : UInt32} {size? : Option Nat} {desc : SurfaceDesc}
    {pitch : UInt32} : (importHandle pool handle size? desc pitch).run.Reports :=
  reports_bind reports_orRefuse fun _ => reports_lift admitted_reports

theorem importName_reports {name : UInt32} {desc : SurfaceDesc} {pitch : UInt32} :
    (importName pool name desc pitch).run.Reports := by
  refine reports_bind reports_orRefuse fun g => ?_
  refine reports_request (Device.owes_ioctl fun _ => rfl) (fun _ => rfl) fun object => ?_
  split
  · refine reports_bind (reports_lift reports_log) fun _ => ?_
    exact reports_logFailure (Device.owes_ioctl fun _ => rfl) (fun _ => rfl) fun _ => reports_throw
  · exact reports_lift admitted_reports

theorem openPrime_reports {fd : Descriptor} {size? : Option Nat} {desc : SurfaceDesc}
    {pitch : UInt32} : (openPrime fd size? desc pitch).run.Reports := by
  refine reports_bind (reports_lift (reports_call fun _ => rfl)) fun answer => ?_
  refine reports_bind reports_orRefuse fun fileSize => ?_
  refine reports_bind (reports_lift reports_log) fun _ => ?_
  dsimp only
  split
  · exact reports_bind (reports_lift reports_log) fun _ => reports_throw
  · refine reports_bind reports_orRefuse fun g => ?_
    refine reports_request (Device.owes_ioctl fun _ => rfl) (fun _ => rfl) fun handle => ?_
    exact Attempt.reports_pure

theorem importPrime_reports {fd : Descriptor} {size? : Option Nat} {desc : SurfaceDesc}
    {pitch : UInt32} : (importPrime pool fd size? desc pitch).Reports := by
  refine openPrime_reports.bind fun outcome => ?_
  cases outcome with
  | error e => exact (reports_call fun _ => rfl).bind fun _ => reports_pure
  | ok opened => exact admitted_reports.bind fun _ => reports_pure

/-! ## Mapping and release -/

theorem mapSource_reports {b : Buffer} : (mapSource b).run.Reports := by
  unfold mapSource
  split
  · exact Attempt.reports_pure
  · refine reports_request (Device.owes_ioctl fun _ => rfl) (fun _ => rfl) fun offset => ?_
    exact Attempt.reports_pure

theorem map_reports : (map pool id).run.Reports := by
  refine reports_bind reports_ofOption fun b => ?_
  split
  · exact reports_throw
  · refine reports_bind mapSource_reports fun place => ?_
    exact reports_request Device.owes_map (fun _ => rfl) fun m => Attempt.reports_pure

theorem unmap_reports : (unmap pool id).Reports := by
  rw [unmap_eq]
  exact Pool.unmapWith_reports fun _ => rfl

theorem releaseMapping_reports {b : Buffer} : (releaseMapping b).Reports := by
  unfold releaseMapping
  split
  · exact reports_pure
  · exact Device.owes_unmap.logFailure fun _ => rfl

theorem owes_release {handle : EngineHandle} : (engine (.release handle)).Owes Fault.engine :=
  owes_of_answer ensures_call_iff (fun _ => rfl) fun _ => rfl

theorem releaseView_reports {b : Buffer} : (releaseView b).Reports := by
  unfold releaseView
  split
  · exact reports_pure
  · exact owes_release.logFailure fun _ => rfl

theorem releasePrime_reports {b : Buffer} : (releasePrime b).Reports := by
  unfold releasePrime
  split
  · exact reports_pure
  · exact reports_call fun _ => rfl

theorem release_reports {b : Buffer} : (release pool b).Reports := by
  refine releaseMapping_reports.bind fun _ => releaseView_reports.bind fun _ => ?_
  refine releasePrime_reports.bind fun _ => (Device.owes_ioctl fun _ => rfl).bind ?_ ?_
  · exact fun _ => reports_log.bind fun _ => reports_pure
  · exact fun e => (explains_log rfl).bind fun _ => reports_pure

theorem destroy_reports : (destroy pool id).Reports := by
  rw [destroy_eq]
  exact Pool.destroyWith_reports fun _ _ => release_reports

/-- The end of the driver logs what fails on the way. -/
theorem teardown_reports : (teardown pool).Reports :=
  ensures_reported ((releases.releaseAll_reports (fun _ _ => release_reports) _ _).mono
    fun _ _ h => ⟨h, .granted rfl h⟩)

/-! ## Operations of the engine -/

theorem owes_check {src : Option EngineView} {dst : EngineView} {srcRect dstRect : EngineRect}
    {usage : Usage} : (engine (.check src dst srcRect dstRect usage)).Owes Fault.engine :=
  owes_of_answer ensures_call_iff (fun _ => rfl) fun _ => rfl

theorem owes_fill {dst : EngineView} {rect : EngineRect} {color : UInt32} :
    (engine (.fill dst rect color)).Owes Fault.engine :=
  owes_of_answer ensures_call_iff (fun _ => rfl) fun _ => rfl

theorem owes_process {src dst : EngineView} {srcRect dstRect : EngineRect}
    {options : EngineOptions} {usage : Usage} :
    (engine (.process src dst srcRect dstRect options usage)).Owes Fault.engine :=
  owes_of_answer ensures_call_iff (fun _ => rfl) fun _ => rfl

theorem fillRect_reports {rect : Rect} {color : UInt32} :
    (fillRect pool id rect color).run.Reports := by
  refine reports_bind reports_ofOption fun b => reports_bind reports_ofOption fun view => ?_
  refine reports_bind (reports_of_asks engineRect_asks) fun target => ?_
  refine reports_request owes_check (fun _ => rfl) fun _ => ?_
  exact reports_refusal owes_fill fun _ => rfl

theorem checkBlit_reports {src dst : BufferId} {srcRect dstRect : Rect} {ops : BlitOps} :
    (checkBlit pool src srcRect dst dstRect ops).run.Reports := by
  refine reports_bind (reports_of_asks translated_asks) fun words => ?_
  refine reports_bind reports_ofOption fun source => reports_bind reports_ofOption fun target => ?_
  refine reports_bind reports_ofOption fun _ => reports_bind reports_ofOption fun _ => ?_
  refine reports_bind (reports_of_asks engineRect_asks) fun srcRect => ?_
  refine reports_bind (reports_of_asks engineRect_asks) fun dstRect => ?_
  exact reports_request owes_check (fun _ => rfl) fun _ => Attempt.reports_pure

theorem blit_reports {prepared : PreparedBlit} : (blit pool prepared).run.Reports := by
  refine reports_bind reports_ofOption fun source => reports_bind reports_ofOption fun srcView => ?_
  refine reports_bind reports_ofOption fun target => reports_bind reports_ofOption fun dstView => ?_
  exact reports_refusal owes_process fun _ => rfl

theorem processWhole_reports {pair : WholePair} {usage : Usage} :
    (processWhole pair usage).run.Reports := by
  refine reports_request owes_check (fun _ => rfl) fun _ => ?_
  exact reports_refusal owes_process fun _ => rfl

theorem copy_reports {src dst : BufferId} : (copy pool src dst).run.Reports := by
  refine reports_bind (reports_of_asks wholePair_asks) fun pair => ?_
  split
  · exact processWhole_reports
  · exact reports_throw

theorem rotate_reports {src dst : BufferId} {op : CopyOp} :
    (rotate pool src dst op).run.Reports := by
  refine reports_bind (reports_of_asks wholePair_asks) fun pair => ?_
  split
  · split
    · exact processWhole_reports
    · exact reports_throw
  · exact reports_throw

theorem flip_reports {src dst : BufferId} {op : CopyOp} : (flip pool src dst op).run.Reports := by
  refine reports_bind (reports_of_asks wholePair_asks) fun pair => ?_
  split
  · split
    · exact processWhole_reports
    · exact reports_throw
  · exact reports_throw

/-! ## All operations -/

/-- An export that has failed without a notice: the buffer has no descriptor, and the
device has refused the only call. -/
inductive SilentExport (pool : State) : Episode → Prop where
  | refused {id : BufferId} {b : Buffer} {cause : Errno} (found : pool.get? id = some b)
      (unshared : b.surface.prime = none) :
      SilentExport pool ⟨.exportPrime id,
        [⟨.ioctl (.primeHandleToFd b.surface.handle primeExportFlags), .error cause⟩],
        .error (.kernel .handleToFd cause)⟩

theorem orKernelError_reports {α : Type} {op : KernelOp} {outcome : Except Errno α} :
    (orKernelError op outcome).run.Reports := by
  cases outcome with
  | ok a => exact Attempt.reports_pure
  | error e => exact reports_throw

theorem exportPrime_reports : (exportPrime pool id).run.Ensures fun t outcome =>
    Reported t ∨ SilentExport pool ⟨.exportPrime id, t, outcome⟩ := by
  refine ensures_bind_of_quiet quiet_ofOption (fun b hb => ?_) fun e => .inl .nil
  split
  · refine Ensures.mono ?_ fun t outcome h => .inl h
    exact reports_bind (reports_lift (reports_call fun _ => rfl)) fun _ => orKernelError_reports
  · rename_i hprime
    refine Attempt.ensures_bind_iff.2 (ensures_lift_iff.2 ?_)
    refine Device.ensures_primeHandleToFd_iff.2 ⟨fun fd => ?_, fun number _ => ?_, fun e => ?_⟩
    · exact Attempt.ensures_pure_iff.2 (.inl (.granted rfl .nil))
    · exact ensures_throw_iff.2 (.inl (.granted rfl .nil))
    · exact ensures_throw_iff.2 (.inr (.refused hb hprime))

/-- Every operation logs the calls that fail, apart from that export. -/
theorem perform_reports {e : Episode} (h : Step perform pool e pool') :
    Reported e.trace ∨ SilentExport pool e := by
  obtain ⟨op, t, result⟩ := e
  cases op with
  | exportPrime id => exact exportPrime_reports _ _ (run_of_observe h).1
  | flush => exact .inl (reports_pure _ _ h)
  | create desc placement => exact .inl (reports_commit create_reports _ _ h)
  | importHandle handle size? desc pitch =>
    exact .inl (reports_commit importHandle_reports _ _ h)
  | importName name desc pitch => exact .inl (reports_commit importName_reports _ _ h)
  | importPrime fd size? desc pitch => exact .inl (importPrime_reports _ _ h)
  | map id => exact .inl (reports_commit map_reports _ _ h)
  | unmap id => exact .inl (unmap_reports _ _ h)
  | destroy id => exact .inl (destroy_reports _ _ h)
  | fillRect id rect color => exact .inl (reports_observe fillRect_reports _ _ h)
  | checkBlit src srcRect dst dstRect ops =>
    exact .inl (reports_observe checkBlit_reports _ _ h)
  | blit prepared => exact .inl (reports_observe blit_reports _ _ h)
  | copy src dst => exact .inl (reports_observe copy_reports _ _ h)
  | rotate src dst op => exact .inl (reports_observe rotate_reports _ _ h)
  | flip src dst op => exact .inl (reports_observe flip_reports _ _ h)

end DrmSurface.Rockchip
