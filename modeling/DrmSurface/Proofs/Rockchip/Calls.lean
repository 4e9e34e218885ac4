import DrmSurface.Proofs.History
import DrmSurface.Proofs.Rockchip.Wrap

/-!
# Which calls the Rockchip driver makes

The operations of the engine make no other calls than requests to compose
and notices, and nothing else in the driver composes.

There are three groups.

* Kinds of calls: those that compose, those that make a buffer, and those
  that only manage one.  Some kinds are parts of others.
* Operations without the engine.  `creation_asks` and `plain_asks` are about
  all of them.
* Operations of the engine, with `accelerated_asks`.
-/

namespace DrmSurface

/-- A request to judge or to run a composition. -/
def Call.composes : Call → Bool
  | .engine (.check ..) | .engine (.fill ..) | .engine (.process ..) => true
  | _ => false

/-- A notice. -/
def Call.isNotice : Call → Bool
  | .log _ => true
  | _ => false

/-- A call by which the engine gets to know a buffer. -/
def Call.wraps : Call → Bool
  | .ioctl (.primeHandleToFd ..) | .engine (.importBuffer ..) | .log _ => true
  | _ => false

/-- A call on the way to a buffer, with those that give up a failed one. -/
def Call.creates : Call → Bool
  | .ioctl (.rockchipGemCreate ..) | .ioctl (.gemOpen _) | .ioctl (.primeFdToHandle ..)
  | .ioctl (.primeHandleToFd ..) | .ioctl (.gemClose _) | .engine (.importBuffer ..)
  | .size _ | .close _ | .log _ => true
  | _ => false

/-- A call about the mapping of a buffer. -/
def Call.maps : Call → Bool
  | .ioctl (.rockchipGemMapOffset _) | .map .. | .unmap _ | .log _ => true
  | _ => false

/-- A call that gives up what a buffer holds beside its object. -/
def Call.detaches : Call → Bool
  | .unmap _ | .engine (.release _) | .closePrime _ | .log _ => true
  | _ => false

/-- A call about a buffer that exists, by which no other one comes to be. -/
def Call.manages : Call → Bool
  | .ioctl (.rockchipGemMapOffset _) | .ioctl (.gemClose _) | .map .. | .unmap _
  | .engine (.release _) | .closePrime _ | .log _ => true
  | _ => false

/-- A call for a new descriptor. -/
def Call.exports : Call → Bool
  | .ioctl (.primeHandleToFd ..) | .duplicate _ => true
  | _ => false

theorem Call.creates_of_wraps {c : Call} (h : c.wraps) : c.creates := by
  cases c with
  | ioctl request => cases request <;> simp [wraps, creates] at h ⊢
  | engine request => cases request <;> simp [wraps, creates] at h ⊢
  | _ => simp [wraps, creates] at h ⊢

theorem Call.manages_of_maps {c : Call} (h : c.maps) : c.manages := by
  cases c with
  | ioctl request => cases request <;> simp [maps, manages] at h ⊢
  | _ => simp [maps, manages] at h ⊢

theorem Call.manages_of_detaches {c : Call} (h : c.detaches) : c.manages := by
  cases c with
  | engine request => cases request <;> simp [detaches, manages] at h ⊢
  | _ => simp [detaches, manages] at h ⊢

theorem Call.composes_of_creates {c : Call} (h : c.creates) : c.composes = false := by
  cases c with
  | engine request => cases request <;> simp [creates, composes] at h ⊢
  | _ => rfl

theorem Call.composes_of_exports {c : Call} (h : c.exports) : c.composes = false := by
  cases c with
  | engine request => cases h
  | _ => rfl

theorem Call.composes_of_manages {c : Call} (h : c.manages) : c.composes = false := by
  cases c with
  | engine request => cases request <;> simp [manages, composes] at h ⊢
  | _ => rfl

namespace Rockchip

open Prog
open Attempt hiding asks_pure ensures_bind_iff ensures_pure_iff

variable {pool : State} {ok : Call → Prop}

/-! ## Operations without the engine -/

theorem primeHandleToFd_asks {handle : UInt32}
    (h : ok (.ioctl (.primeHandleToFd handle primeExportFlags))) :
    Asks ok (Device.primeHandleToFd handle) := by
  apply (asks_call h).bind
  intro answer
  cases answer <;> exact asks_pure

theorem share_asks {b : Buffer} : Asks (·.wraps) (share b) := by
  unfold share
  split
  · exact asks_pure
  · refine Asks.bind (primeHandleToFd_asks rfl) fun answer => ?_
    cases answer with
    | ok fd => exact asks_pure
    | error e => exact Asks.bind (asks_log fun _ => rfl) fun _ => asks_pure

theorem importView_asks {b : Buffer}
    (himport : ∀ fd width height format, ok (.engine (.importBuffer fd width height format)))
    (hlog : ∀ n, ok (.log n)) : Asks ok (importView b) :=
  ensures_importView_iff.2 ⟨fun _ => by simp, fun _ _ _ =>
    ⟨fun _ => by simp [himport], fun _ => by simp [himport, hlog]⟩⟩

theorem admitted_asks {origin : Origin} {desc : SurfaceDesc} {g : Geometry} :
    Asks (·.wraps) (admitted pool origin desc g) := by
  refine Asks.bind (asks_log fun _ => rfl) fun _ => Asks.bind ?_ fun _ => asks_pure
  exact share_asks.bind fun _ => importView_asks (fun _ _ _ _ => rfl) fun _ => rfl

theorem create_asks {desc : SurfaceDesc} {placement : Placement} :
    Asks (·.creates) (create pool desc placement).run := by
  refine asks_bind (asks_orRefuse fun _ => rfl) fun g => ?_
  refine asks_bind (asks_lift (asks_call rfl)) fun answer => ?_
  refine asks_bind (asks_orRefuse fun _ => rfl) fun handle => ?_
  exact asks_lift (admitted_asks.mono fun _ => Call.creates_of_wraps)

theorem importHandle_asks {handle : UInt32} {size? : Option Nat} {desc : SurfaceDesc}
    {pitch : UInt32} : Asks (·.creates) (importHandle pool handle size? desc pitch).run := by
  refine asks_bind (asks_orRefuse fun _ => rfl) fun g => ?_
  exact asks_lift (admitted_asks.mono fun _ => Call.creates_of_wraps)

theorem importName_asks {name : UInt32} {desc : SurfaceDesc} {pitch : UInt32} :
    Asks (·.creates) (importName pool name desc pitch).run := by
  refine asks_bind (asks_orRefuse fun _ => rfl) fun g => ?_
  refine asks_bind (asks_lift (asks_call rfl)) fun answer => ?_
  refine asks_bind (asks_orRefuse fun _ => rfl) fun object => ?_
  split
  · refine asks_bind (asks_lift (asks_log fun _ => rfl)) fun _ => ?_
    refine asks_bind (asks_lift (asks_call rfl)) fun closed => ?_
    exact asks_bind (asks_lift (asks_logFailure fun _ => rfl)) fun _ => asks_throw
  · exact asks_lift (admitted_asks.mono fun _ => Call.creates_of_wraps)

theorem openPrime_asks {fd : Descriptor} {size? : Option Nat} {desc : SurfaceDesc}
    {pitch : UInt32} : Asks (·.creates) (openPrime fd size? desc pitch).run := by
  refine asks_bind (asks_lift (asks_call rfl)) fun answer => ?_
  refine asks_bind (asks_orRefuse fun _ => rfl) fun fileSize => ?_
  refine asks_bind (asks_lift (asks_log fun _ => rfl)) fun _ => ?_
  dsimp only
  split
  · exact asks_bind (asks_lift (asks_log fun _ => rfl)) fun _ => asks_throw
  · refine asks_bind (asks_orRefuse fun _ => rfl) fun g => ?_
    refine asks_bind (asks_lift (asks_call rfl)) fun answer => ?_
    exact asks_bind (asks_orRefuse fun _ => rfl) fun handle => Attempt.asks_pure

theorem importPrime_asks {fd : Descriptor} {size? : Option Nat} {desc : SurfaceDesc}
    {pitch : UInt32} : Asks (·.creates) (importPrime pool fd size? desc pitch) := by
  apply openPrime_asks.bind
  intro outcome
  cases outcome with
  | ok opened =>
    exact (admitted_asks.mono fun _ => Call.creates_of_wraps).bind fun _ => asks_pure
  | error e => exact Asks.bind (asks_call rfl) fun _ => asks_pure

/-- An operation that may give out an id makes only calls on the way to a
buffer. -/
theorem creation_asks {op : Operation} (h : op.isCreation) :
    Asks (·.creates) (perform pool op) := by
  cases op with
  | create desc placement => exact asks_commit create_asks
  | importHandle handle size? desc pitch => exact asks_commit importHandle_asks
  | importName name desc pitch => exact asks_commit importName_asks
  | importPrime fd size? desc pitch => exact importPrime_asks
  | _ => cases h

theorem map_asks {id : BufferId} : Asks (·.maps) (map pool id).run := by
  refine asks_bind asks_ofOption fun b => ?_
  split
  · exact asks_throw
  · refine asks_bind ?_ fun place => asks_bind ?_ fun answer => ?_
    · unfold mapSource
      split
      · exact Attempt.asks_pure
      · refine asks_bind (asks_lift (asks_call rfl)) fun answer => ?_
        exact asks_bind (asks_orRefuse fun _ => rfl) fun offset => Attempt.asks_pure
    · exact asks_lift (Device.map_asks rfl)
    · exact asks_bind (asks_orRefuse fun _ => rfl) fun mapping => Attempt.asks_pure

theorem unmap_asks {id : BufferId} : Asks (·.maps) (unmap pool id) := by
  unfold unmap
  split
  · exact asks_pure
  · split
    · exact asks_pure
    · refine Asks.bind (asks_call rfl) fun answer => ?_
      cases answer with
      | ok _ => exact asks_pure
      | error e => exact Asks.bind (asks_log fun _ => rfl) fun _ => asks_pure

theorem releaseMapping_asks {b : Buffer} : Asks (·.detaches) (releaseMapping b) := by
  unfold releaseMapping
  split
  · exact asks_pure
  · exact Asks.bind (asks_call rfl) fun _ => asks_logFailure fun _ => rfl

theorem releaseView_asks {b : Buffer} : Asks (·.detaches) (releaseView b) := by
  unfold releaseView
  split
  · exact asks_pure
  · exact Asks.bind (asks_call rfl) fun _ => asks_logFailure fun _ => rfl

theorem releasePrime_asks {b : Buffer} : Asks (·.detaches) (releasePrime b) := by
  unfold releasePrime
  split
  · exact asks_pure
  · exact asks_call rfl

theorem release_asks {b : Buffer} : Asks (·.manages) (release pool b) := by
  refine Asks.bind (releaseMapping_asks.mono fun _ => Call.manages_of_detaches) fun _ => ?_
  refine Asks.bind (releaseView_asks.mono fun _ => Call.manages_of_detaches) fun _ => ?_
  refine Asks.bind (releasePrime_asks.mono fun _ => Call.manages_of_detaches) fun _ => ?_
  refine Asks.bind (asks_call rfl) fun answer => ?_
  cases answer <;> exact Asks.bind (asks_log fun _ => rfl) fun _ => asks_pure

theorem releaseAll_asks {bs : List Buffer} : Asks (·.manages) (releaseAll pool bs) := by
  induction bs generalizing pool with
  | nil => exact asks_pure
  | cons b bs ih => exact release_asks.bind fun _ => ih

theorem destroy_asks {id : BufferId} : Asks (·.manages) (destroy pool id) := by
  unfold destroy
  split
  · exact asks_pure
  · exact release_asks.bind fun _ => asks_pure

theorem exportPrime_asks {id : BufferId} : Asks (·.exports) (exportPrime pool id).run := by
  have horKernelError : ∀ {op : KernelOp} {outcome : Except Errno Descriptor},
      Asks (·.exports) (orKernelError op outcome).run := by
    intro op outcome
    cases outcome with
    | ok fd => exact Attempt.asks_pure
    | error e => exact asks_throw
  refine asks_bind asks_ofOption fun b => ?_
  split
  · exact asks_bind (asks_lift (asks_call rfl)) fun _ => horKernelError
  · exact asks_bind (asks_lift (primeHandleToFd_asks rfl)) fun _ => horKernelError

/-- What is not done by the engine asks the engine for no composition. -/
theorem plain_asks {op : Operation} (h : op.isAccelerated = false) :
    Asks (·.composes = false) (perform pool op) := by
  cases op with
  | flush => exact asks_pure
  | create | importHandle | importName | importPrime =>
    exact (creation_asks rfl).mono fun _ => Call.composes_of_creates
  | map id =>
    exact (asks_commit map_asks).mono fun _ h => Call.composes_of_manages (Call.manages_of_maps h)
  | unmap id => exact unmap_asks.mono fun _ h => Call.composes_of_manages (Call.manages_of_maps h)
  | destroy id => exact destroy_asks.mono fun _ => Call.composes_of_manages
  | exportPrime id =>
    exact (asks_observe exportPrime_asks).mono fun _ => Call.composes_of_exports
  | fillRect | checkBlit | blit | copy | rotate | flip => cases h

theorem teardown_asks : Asks (·.manages) (teardown pool) := by
  have hreleaseAll : Asks (·.manages) (do
      let _ ← releaseAll pool.emptied pool.buffers.values
      return ()) :=
    releaseAll_asks.bind fun _ => asks_pure
  unfold teardown
  split
  · exact Asks.bind (asks_log fun _ => rfl) fun _ => hreleaseAll
  · exact hreleaseAll

theorem new_asks : Asks (·.composes = false) new := by
  refine Asks.bind (asks_call rfl) fun info => ?_
  cases info with
  | none => exact asks_pure
  | some text => exact Asks.bind (asks_log fun _ => rfl) fun _ => asks_pure

/-! ## Operations of the engine -/

theorem orEngineError_asks {outcome : Except EngineError Unit} :
    Asks (fun c => c.composes ∨ c.isNotice) (orEngineError outcome).run :=
  asks_orRefuse fun _ => .inr rfl

theorem engineRect_asks {b : Buffer} {rect : Rect} : Asks ok (engineRect b rect).run := by
  unfold engineRect
  split
  · exact asks_ofOption
  · exact asks_throw

theorem translated_asks {ops : BlitOps} : Asks ok (translated ops).run := by
  unfold translated
  split
  · exact Attempt.asks_pure
  · exact asks_throw

theorem wholePair_asks {src dst : BufferId} : Asks ok (wholePair pool src dst).run := by
  refine asks_bind asks_ofOption fun source => asks_bind asks_ofOption fun target => ?_
  refine asks_bind asks_ofOption fun srcView => asks_bind asks_ofOption fun dstView => ?_
  refine asks_bind asks_ofOption fun srcRect => asks_bind asks_ofOption fun dstRect => ?_
  exact Attempt.asks_pure

theorem processWhole_asks {pair : WholePair} {usage : Usage} :
    Asks (fun c => c.composes ∨ c.isNotice) (processWhole pair usage).run := by
  refine asks_bind (asks_lift (asks_call (.inl rfl))) fun _ => ?_
  apply asks_bind orEngineError_asks
  intro _
  exact asks_bind (asks_lift (asks_call (.inl rfl))) fun _ => orEngineError_asks

/-- What is done by the engine asks nobody else. -/
theorem accelerated_asks {op : Operation} (h : op.isAccelerated) :
    Asks (fun c => c.composes ∨ c.isNotice) (perform pool op) := by
  cases op with
  | fillRect id rect color =>
    refine asks_observe ?_
    refine asks_bind asks_ofOption fun b => asks_bind asks_ofOption fun view => ?_
    refine asks_bind engineRect_asks fun target => ?_
    refine asks_bind (asks_lift (asks_call (.inl rfl))) fun _ => ?_
    apply asks_bind orEngineError_asks
    intro _
    exact asks_bind (asks_lift (asks_call (.inl rfl))) fun _ => orEngineError_asks
  | checkBlit src srcRect dst dstRect ops =>
    refine asks_observe (asks_bind translated_asks fun words => ?_)
    refine asks_bind asks_ofOption fun source => asks_bind asks_ofOption fun target => ?_
    refine asks_bind asks_ofOption fun srcView => asks_bind asks_ofOption fun dstView => ?_
    refine asks_bind engineRect_asks fun srcRect => ?_
    refine asks_bind engineRect_asks fun dstRect => ?_
    refine asks_bind (asks_lift (asks_call (.inl rfl))) fun _ => ?_
    exact asks_bind orEngineError_asks fun _ => Attempt.asks_pure
  | blit prepared =>
    refine asks_observe ?_
    refine asks_bind asks_ofOption fun source => asks_bind asks_ofOption fun srcView => ?_
    refine asks_bind asks_ofOption fun target => asks_bind asks_ofOption fun dstView => ?_
    exact asks_bind (asks_lift (asks_call (.inl rfl))) fun _ => orEngineError_asks
  | copy src dst =>
    refine asks_observe (asks_bind wholePair_asks fun pair => ?_)
    split
    · exact processWhole_asks
    · exact asks_throw
  | rotate src dst op =>
    refine asks_observe (asks_bind wholePair_asks fun pair => ?_)
    split
    · split
      · exact processWhole_asks
      · exact asks_throw
    · exact asks_throw
  | flip src dst op =>
    refine asks_observe (asks_bind wholePair_asks fun pair => ?_)
    split
    · split
      · exact processWhole_asks
      · exact asks_throw
    · exact asks_throw
  | _ => cases h

end Rockchip

end DrmSurface
