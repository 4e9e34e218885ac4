import DrmSurface.Proofs.Rockchip.Settled

/-!
# When the Rockchip driver stops

The rows of a buffer are counted in a word when the engine is to import it.  An
operation stops there if a word does not hold them, and nowhere else.  By then the
device may have given out a handle and a descriptor.

There are four groups.

* `Granting`, the way of a creation to the origin of its buffer, and `Stops`, which
  takes it on to where it stops.
* The creations, one by one.
* The operations that never stop.
* `perform_aborts_iff`, about all operations.
-/

namespace DrmSurface.Rockchip

open Prog
open Attempt hiding safe_pure ensures_bind_iff ensures_pure_iff runs_log_bind_iff
  aborts_log_bind_iff

variable {pool : State} {id src dst : BufferId} {desc : SurfaceDesc} {pitch : UInt32}
  {size? : Option Nat} {t : List Exchange} {cause : Panic}

/-! ## The way to an origin -/

/-- A creation has found the geometry of its surface and the origin of its buffer, by
the calls of a list. -/
inductive Granting : Operation → SurfaceDesc → Geometry → Origin → List Exchange → Prop where
  | create {desc : SurfaceDesc} {placement : Placement} {g : Geometry} {handle : UInt32}
      (computed : Geometry.compute .rockchip desc = .ok g) :
      Granting (.create desc placement) desc g
        { handle, scanout := placement.isScanout, flags := placementFlags placement }
        [⟨.ioctl (.rockchipGemCreate g.size (placementFlags placement)), .ok handle⟩]
  | importHandle {handle : UInt32} {size? : Option Nat} {desc : SurfaceDesc} {pitch : UInt32}
      {g : Geometry} (stated : Stated desc pitch size? g) :
      Granting (.importHandle handle size? desc pitch) desc g { handle } []
  | importName {name : UInt32} {desc : SurfaceDesc} {pitch : UInt32} {g : Geometry}
      {object : OpenReply} (stated : Stated desc pitch none g) (fits : g.size ≤ object.size) :
      Granting (.importName name desc pitch) desc g
        { handle := object.handle, name := some name } [⟨.ioctl (.gemOpen name), .ok object⟩]
  | importPrime {fd : Descriptor} {size? : Option Nat} {desc : SurfaceDesc} {pitch : UInt32}
      {g : Geometry} {n : Nat} {handle : UInt32} (fits : size?.getD n ≤ n)
      (stated : Stated desc pitch (some (size?.getD n)) g) :
      Granting (.importPrime fd size? desc pitch) desc g { handle, prime := some fd }
        [⟨.size fd, .ok n⟩, ⟨.log (notice (.fdSize n)), ()⟩,
          ⟨.ioctl (.primeFdToHandle fd 0), .ok handle⟩]

theorem Granting.computed {op : Operation} {g : Geometry} {origin : Origin}
    (granting : Granting op desc g origin t) : Geometry.compute .rockchip desc = .ok g := by
  cases granting with
  | create computed => exact computed
  | importHandle stated | importName stated | importPrime _ stated => exact stated.computed

theorem Granting.desc_eq {op : Operation} {g : Geometry} {origin : Origin}
    (granting : Granting op desc g origin t) : op.desc? = some desc := by
  cases granting <;> rfl

/-- The calls of a creation that stops: it gets as far as an origin, announces the
buffer, comes by a descriptor, finds that a word does not hold the rows, and
drops the descriptor with the buffer. -/
def Stops (pool : State) (op : Operation) (t : List Exchange) : Prop :=
  ∃ desc g origin fd t₁ t₂, Granting op desc g origin t₁ ∧
    Obtains (origin.buffer pool.nextId desc g) t₂ fd ∧
    UInt32.size ≤ desc.height.toNat + g.headerRows.toNat ∧
    t = t₁ ++ ⟨.log (notice (.created pool.nextId origin.handle desc g)), ()⟩ ::
      (t₂ ++ [⟨.close fd, ()⟩])

theorem stops_iff {op : Operation} (cause : Panic) : Stops pool op t ↔
    ∃ desc g origin t₁ t₂, Granting op desc g origin t₁ ∧ t = t₁ ++ t₂ ∧
      (admitted pool origin desc g).Aborts t₂ cause := by
  simp only [admitted_aborts_iff]
  constructor
  · rintro ⟨desc, g, origin, fd, t₁, t₂, granting, obtains, hlarge, rfl⟩
    exact ⟨desc, g, origin, t₁, _, granting, rfl, fd, t₂, obtains, hlarge, rfl⟩
  · rintro ⟨desc, g, origin, t₁, _, granting, rfl, fd, t₂, obtains, hlarge, rfl⟩
    exact ⟨desc, g, origin, fd, t₁, t₂, granting, obtains, hlarge, rfl⟩

/-- The engine is not asked for anything by a creation that stops. -/
theorem Stops.silent {op : Operation} (stops : Stops pool op t) :
    ∀ x ∈ t, ∀ request, x.call ≠ .engine request := by
  obtain ⟨_, _, _, _, _, _, granting, obtains, -, rfl⟩ := stops
  cases granting <;> cases obtains <;> simp

/-! ## The four creations -/

theorem create_aborts_iff {placement : Placement} :
    (commit pool (create pool desc placement)).Aborts t cause ↔
      Stops pool (.create desc placement) t := by
  rw [aborts_commit_iff, create, aborts_refuse_iff, stops_iff cause]
  constructor
  · rintro ⟨g, hg, h⟩
    obtain ⟨handle, t₁, t₂, rfl, run, stops⟩ := (aborts_request_iff safe_call).1 h
    obtain rfl := runs_call_iff.1 run
    exact ⟨_, _, _, _, _, .create hg, rfl, aborts_lift_iff.1 stops⟩
  · rintro ⟨_, g, _, _, t₂, granting, rfl, stops⟩
    cases granting with
    | create hg =>
      refine ⟨g, hg, (aborts_request_iff safe_call).2 ⟨_, _, t₂, rfl, runs_call_iff.2 rfl, ?_⟩⟩
      exact aborts_lift_iff.2 stops

theorem importHandle_aborts_iff {handle : UInt32} :
    (commit pool (importHandle pool handle size? desc pitch)).Aborts t cause ↔
      Stops pool (.importHandle handle size? desc pitch) t := by
  rw [aborts_commit_iff, importHandle, validated, aborts_refuse_iff, stops_iff cause]
  simp only [validate_eq_ok_iff_stated]
  constructor
  · rintro ⟨g, stated, stops⟩
    exact ⟨_, _, _, [], t, .importHandle stated, rfl, aborts_lift_iff.1 stops⟩
  · rintro ⟨_, g, _, _, t₂, granting, rfl, stops⟩
    cases granting with
    | importHandle stated => exact ⟨g, stated, aborts_lift_iff.2 stops⟩

theorem importName_aborts_iff {name : UInt32} :
    (commit pool (importName pool name desc pitch)).Aborts t cause ↔
      Stops pool (.importName name desc pitch) t := by
  rw [aborts_commit_iff, importName, validated, aborts_refuse_iff, stops_iff cause]
  simp only [validate_eq_ok_iff_stated]
  constructor
  · rintro ⟨g, stated, h⟩
    obtain ⟨object, t₁, t₂, rfl, run, stops⟩ := (aborts_request_iff safe_call).1 h
    obtain rfl := runs_call_iff.1 run
    split at stops
    · refine absurd stops (safe_bind (safe_lift safe_call) (fun _ => ?_) _ _)
      refine safe_bind (safe_lift safe_call) fun _ => ?_
      exact safe_bind (safe_lift safe_logFailure) fun _ => safe_throw
    · rename_i hfits
      exact ⟨_, _, _, _, _, .importName stated (Nat.not_lt.1 hfits), rfl, aborts_lift_iff.1 stops⟩
  · rintro ⟨_, g, _, _, t₂, granting, rfl, stops⟩
    cases granting with
    | importName stated hfits =>
      refine ⟨g, stated, (aborts_request_iff safe_call).2
        ⟨_, _, t₂, rfl, runs_call_iff.2 rfl, ?_⟩⟩
      rw [if_neg (Nat.not_lt.2 hfits)]
      exact aborts_lift_iff.2 stops

theorem openPrime_safe {fd : Descriptor} : (openPrime fd size? desc pitch).run.Safe := by
  refine safe_bind (safe_lift safe_call) fun _ => safe_bind safe_orRefuse fun fileSize => ?_
  refine safe_bind (safe_lift safe_call) fun _ => ?_
  dsimp only
  split
  · exact safe_bind (safe_lift safe_call) fun _ => safe_throw
  · refine safe_bind safe_orRefuse fun g => safe_bind (safe_lift safe_call) fun _ => ?_
    exact safe_bind safe_orRefuse fun _ => Attempt.safe_pure

/-- A descriptor is opened after a look at its size and at what its owner states. -/
theorem openPrime_runs_ok_iff {fd : Descriptor} {g : Geometry} {handle : UInt32} :
    (openPrime fd size? desc pitch).run.Runs t (.ok (g, handle)) ↔
      Granting (.importPrime fd size? desc pitch) desc g { handle, prime := some fd } t := by
  constructor
  · intro run
    cases openPrime_opening _ _ run with
    | opened fits stated handle => exact .importPrime fits stated
  · intro granting
    cases granting with
    | @importPrime _ _ _ _ _ n _ hfits stated =>
      refine runs_request_iff.2 ⟨_, .ok n, runs_call_iff.2 rfl, _, rfl, ?_⟩
      refine Attempt.runs_log_bind_iff.2 ⟨_, rfl, ?_⟩
      dsimp only
      rw [if_neg (Nat.not_lt.2 hfits), validated, runs_refuse_iff,
        validate_eq_ok_iff_stated.2 stated]
      refine runs_request_iff.2 ⟨_, .ok handle, runs_call_iff.2 rfl, [], rfl, ?_⟩
      exact .done _

theorem importPrime_aborts_iff {fd : Descriptor} :
    (importPrime pool fd size? desc pitch).Aborts t cause ↔
      Stops pool (.importPrime fd size? desc pitch) t := by
  rw [importPrime, openPrime_safe.aborts_bind_iff, stops_iff cause]
  constructor
  · rintro ⟨outcome, t₁, t₂, rfl, run, stops⟩
    cases outcome with
    | error e => exact absurd stops (safe_call.bind (fun _ => safe_pure) _ _)
    | ok opened =>
      have stops := (aborts_bind_iff_of_safe fun _ => safe_pure).1 stops
      exact ⟨_, _, _, _, _, openPrime_runs_ok_iff.1 run, rfl, stops⟩
  · rintro ⟨_, g, _, t₁, t₂, granting, rfl, stops⟩
    cases granting with
    | @importPrime _ _ _ _ g n handle hfits stated =>
      refine ⟨.ok (g, handle), _, t₂, rfl, ?_, (aborts_bind_iff_of_safe fun _ => safe_pure).2 stops⟩
      exact openPrime_runs_ok_iff.2 (.importPrime hfits stated)

/-! ## Operations that never stop -/

theorem exportPrime_safe : (exportPrime pool id).run.Safe := by
  have hkernel : ∀ {op : KernelOp} {outcome : Except Errno Descriptor},
      (orKernelError op outcome).run.Safe := fun {_ outcome} => by
    cases outcome <;> exact safe_pure
  refine safe_bind safe_ofOption fun b => ?_
  split
  · exact safe_bind (safe_lift safe_call) fun _ => hkernel
  · exact safe_bind (safe_lift primeHandleToFd_safe) fun _ => hkernel

theorem mapSource_safe {b : Buffer} : (mapSource b).run.Safe := by
  unfold mapSource
  split
  · exact safe_pure
  · exact safe_bind (safe_lift safe_call) fun _ => safe_bind safe_orRefuse fun _ => safe_pure

theorem map_safe : (map pool id).run.Safe := by
  refine safe_bind safe_ofOption fun b => ?_
  split
  · exact safe_throw
  · refine safe_bind mapSource_safe fun place => safe_bind (safe_lift Device.map_safe) fun _ => ?_
    exact safe_bind safe_orRefuse fun _ => safe_pure

theorem unmap_safe : (unmap pool id).Safe := by
  rw [unmap_eq]
  exact Pool.unmapWith_safe

theorem release_safe (pool : State) (b : Buffer) : (release pool b).Safe := by
  have hmapping : (releaseMapping b).Safe := by
    unfold releaseMapping
    split
    · exact safe_pure
    · exact safe_call.bind fun _ => safe_logFailure
  have hview : (releaseView b).Safe := by
    unfold releaseView
    split
    · exact safe_pure
    · exact safe_call.bind fun _ => safe_logFailure
  have hprime : (releasePrime b).Safe := by
    unfold releasePrime
    split
    · exact safe_pure
    · exact safe_call
  refine hmapping.bind fun _ => hview.bind fun _ => hprime.bind fun _ => ?_
  refine safe_call.bind fun outcome => ?_
  cases outcome <;> exact safe_call.bind fun _ => safe_pure

theorem destroy_safe : (destroy pool id).Safe := by
  rw [destroy_eq]
  exact Pool.destroyWith_safe release_safe

theorem engineRect_safe {b : Buffer} {rect : Rect} : (engineRect b rect).run.Safe := by
  unfold engineRect
  split
  · exact safe_ofOption
  · exact safe_throw

theorem translated_safe {ops : BlitOps} : (translated ops).run.Safe := by
  unfold translated
  split
  · exact safe_pure
  · exact safe_throw

theorem orEngineError_safe {outcome : Except EngineError Unit} :
    (orEngineError outcome).run.Safe :=
  safe_orRefuse

theorem wholePair_safe : (wholePair pool src dst).run.Safe := by
  refine safe_bind safe_ofOption fun source => safe_bind safe_ofOption fun target => ?_
  refine safe_bind safe_ofOption fun srcView => safe_bind safe_ofOption fun dstView => ?_
  refine safe_bind safe_ofOption fun srcRect => safe_bind safe_ofOption fun dstRect => ?_
  exact safe_pure

theorem processWhole_safe {pair : WholePair} {usage : Usage} :
    (processWhole pair usage).run.Safe := by
  refine safe_bind (safe_lift safe_call) fun _ => safe_bind orEngineError_safe fun _ => ?_
  exact safe_bind (safe_lift safe_call) fun _ => orEngineError_safe

theorem accelerated_safe {op : Operation} (h : op.isAccelerated) : (perform pool op).Safe := by
  cases op with
  | fillRect id rect color =>
    refine safe_observe (safe_bind safe_ofOption fun b => safe_bind safe_ofOption fun view => ?_)
    refine safe_bind engineRect_safe fun target => safe_bind (safe_lift safe_call) fun _ => ?_
    refine safe_bind orEngineError_safe fun _ => ?_
    exact safe_bind (safe_lift safe_call) fun _ => orEngineError_safe
  | checkBlit src srcRect dst dstRect ops =>
    refine safe_observe (safe_bind translated_safe fun words => ?_)
    refine safe_bind safe_ofOption fun source => safe_bind safe_ofOption fun target => ?_
    refine safe_bind safe_ofOption fun srcView => safe_bind safe_ofOption fun dstView => ?_
    refine safe_bind engineRect_safe fun srcRect => safe_bind engineRect_safe fun dstRect => ?_
    refine safe_bind (safe_lift safe_call) fun _ => ?_
    exact safe_bind orEngineError_safe fun _ => safe_pure
  | blit prepared =>
    refine safe_observe ?_
    refine safe_bind safe_ofOption fun source => safe_bind safe_ofOption fun srcView => ?_
    refine safe_bind safe_ofOption fun target => safe_bind safe_ofOption fun dstView => ?_
    exact safe_bind (safe_lift safe_call) fun _ => orEngineError_safe
  | copy src dst =>
    refine safe_observe (safe_bind wholePair_safe fun pair => ?_)
    split
    · exact processWhole_safe
    · exact safe_throw
  | rotate src dst op =>
    refine safe_observe (safe_bind wholePair_safe fun pair => ?_)
    split
    · split
      · exact processWhole_safe
      · exact safe_throw
    · exact safe_throw
  | flip src dst op =>
    refine safe_observe (safe_bind wholePair_safe fun pair => ?_)
    split
    · split
      · exact processWhole_safe
      · exact safe_throw
    · exact safe_throw
  | _ => cases h

/-! ## All operations -/

theorem not_stops {op : Operation} (h : op.desc? = none) : ¬ Stops pool op t := by
  rintro ⟨_, _, _, _, _, _, granting, -⟩
  cases h.symm.trans granting.desc_eq

/-- An operation stops if and only if it is a creation that has come by a descriptor
for a buffer whose rows a word does not hold. -/
theorem perform_aborts_iff {op : Operation} :
    (perform pool op).Aborts t cause ↔ Stops pool op t := by
  cases op with
  | create desc placement => exact create_aborts_iff
  | importHandle handle size? desc pitch => exact importHandle_aborts_iff
  | importName name desc pitch => exact importName_aborts_iff
  | importPrime fd size? desc pitch => exact importPrime_aborts_iff
  | flush => exact iff_of_false (Prog.safe_pure _ _) (not_stops rfl)
  | map id => exact iff_of_false (safe_commit map_safe _ _) (not_stops rfl)
  | unmap id => exact iff_of_false (unmap_safe _ _) (not_stops rfl)
  | destroy id => exact iff_of_false (destroy_safe _ _) (not_stops rfl)
  | exportPrime id => exact iff_of_false (safe_observe exportPrime_safe _ _) (not_stops rfl)
  | fillRect | checkBlit | blit | copy | rotate | flip =>
    exact iff_of_false (accelerated_safe rfl _ _) (not_stops rfl)

/-- An operation on a surface with rows that fit a word never stops. -/
theorem perform_safe {op : Operation} (h : ∀ desc g, op.desc? = some desc →
      Geometry.compute .rockchip desc = .ok g →
        desc.height.toNat + g.headerRows.toNat < UInt32.size) : (perform pool op).Safe := by
  intro t cause stops
  obtain ⟨desc, g, _, _, _, _, granting, -, hlarge, -⟩ := perform_aborts_iff.1 stops
  exact absurd (h desc g granting.desc_eq granting.computed) (Nat.not_lt.2 hlarge)

end DrmSurface.Rockchip
