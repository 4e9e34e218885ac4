import DrmSurface.Proofs.Rockchip.Change

/-!
# How operations of the Rockchip driver fail

The driver finds the mistakes of its callers before it asks the device for
anything, apart from one: whether a named object is large enough shows only
after it has been opened.

There are three groups.

* Failed creations, which give back what they have opened.
* Operations on one buffer.
* Operations of the engine, and `perform_foundEarly` about all operations.
-/

namespace DrmSurface.Rockchip

open Prog
open Attempt hiding asks_pure ensures_bind_iff ensures_pure_iff

variable {pool pool' : State} {id : BufferId}

/-! ## Failed creations -/

theorem GivenBack.closes {name pitch : UInt32} {desc : SurfaceDesc} {t : List Exchange}
    {error : DriverError} (h : GivenBack name desc pitch t error) {past future : List Exchange}
    {x : Exchange} {handle : UInt32} (ht : t = past ++ x :: future)
    (hx : .object handle ∈ x.acquired) :
    ∃ y ∈ future, y.call = .ioctl (.gemClose handle) := by
  obtain ⟨g, object, answer, rest, -, -, -, rfl, hrest⟩ := h
  cases past with
  | nil =>
    obtain ⟨rfl, rfl⟩ := List.cons.inj ht
    obtain rfl : handle = object.handle := by
      simpa [Exchange.acquired, Request.acquired] using hx
    exact ⟨⟨.ioctl (.gemClose object.handle), answer⟩, by simp, rfl⟩
  | cons y past =>
    -- Only the first call has opened something.
    obtain ⟨-, htail⟩ := List.cons.inj ht
    have hmem : x ∈ past.append (x :: future) := List.mem_append_cons_self
    rw [← htail, List.mem_cons, List.mem_cons] at hmem
    have hnothing : x.acquired = 0 := by
      rcases hmem with rfl | rfl | hx
      · rfl
      · cases answer <;> rfl
      · exact Exchange.acquired_of_not_isDeviceCall (hrest x hx)
    rw [hnothing] at hx
    exact absurd hx (Multiset.notMem_zero _)

/-- An object that a failed creation has opened is given back afterwards. -/
theorem Creation.closes {op : Operation} {t : List Exchange} {error : DriverError}
    (h : Creation pool ⟨op, t, .error error⟩ pool') {past future : List Exchange} {x : Exchange}
    {handle : UInt32} (ht : t = past ++ x :: future) (hx : .object handle ∈ x.acquired) :
    ∃ y ∈ future, y.call = .ioctl (.gemClose handle) := by
  cases h with
  | admitted created => cases op <;> cases created
  | refused h =>
    have hacquired : .object handle ∈ acquired t := mem_acquired.2 ⟨x, by simp [ht], hx⟩
    rw [h.nothing] at hacquired
    exact absurd hacquired (Multiset.notMem_zero _)
  | givenBack h => exact h.closes ht hx

/-! ## Operations on one buffer -/

theorem mapSource_failsByDevice {b : Buffer} : (mapSource b).FailsByDevice := by
  unfold mapSource
  split
  · exact failsByDevice_pure
  · refine failsByDevice_lift.bind fun answer => ?_
    exact (failsByDevice_orRefuse fun _ => rfl).bind fun offset => failsByDevice_pure

theorem map_failsEarly : (map pool id).FailsEarly := by
  refine failsEarly_bind asks_ofOption fun b => ?_
  split
  · exact failsEarly_throw
  · refine (mapSource_failsByDevice.bind fun place => ?_).failsEarly
    refine failsByDevice_lift.bind fun outcome => ?_
    exact (failsByDevice_orRefuse fun _ => rfl).bind fun m => failsByDevice_pure

theorem unmap_foundEarly : (unmap pool id).Ensures fun t r => FoundEarly t r.1 := by
  rw [unmap_eq]
  exact Pool.unmapWith_foundEarly

theorem destroy_foundEarly : (destroy pool id).Ensures fun t r => FoundEarly t r.1 := by
  rw [destroy_eq]
  exact Pool.destroyWith_foundEarly

theorem orKernelError_failsByDevice {α : Type} {op : KernelOp} {outcome : Except Errno α} :
    (orKernelError op outcome).FailsByDevice := by
  cases outcome with
  | ok a => exact failsByDevice_pure
  | error e => exact ensures_throw_iff.2 (by simp [DriverError.isDeviceFailure])

theorem exportPrime_failsEarly : (exportPrime pool id).FailsEarly := by
  refine failsEarly_bind asks_ofOption fun b => ?_
  split
  · exact (failsByDevice_lift.bind fun _ => orKernelError_failsByDevice).failsEarly
  · exact (failsByDevice_lift.bind fun _ => orKernelError_failsByDevice).failsEarly

/-! ## Operations of the engine -/

/-- A request that the engine may refuse, before anything that fails for this
reason only. -/
theorem askEngine_failsByDevice {α : Type} {p : Prog (Except EngineError Unit)}
    {f : Unit → Attempt α} (hf : ∀ u, (f u).FailsByDevice) :
    (liftM p >>= fun outcome => orEngineError outcome >>= f : Attempt α).FailsByDevice := by
  refine failsByDevice_lift.bind fun outcome => ?_
  exact (failsByDevice_orRefuse fun _ => rfl).bind hf

theorem orEngineError_failsByDevice {outcome : Except EngineError Unit} :
    (orEngineError outcome).FailsByDevice :=
  failsByDevice_orRefuse fun _ => rfl

theorem fillRect_failsEarly {rect : Rect} {color : UInt32} :
    (fillRect pool id rect color).FailsEarly := by
  refine failsEarly_bind asks_ofOption fun b => failsEarly_bind asks_ofOption fun view => ?_
  refine failsEarly_bind engineRect_asks fun target => ?_
  refine (askEngine_failsByDevice fun _ => ?_).failsEarly
  exact failsByDevice_lift.bind fun _ => orEngineError_failsByDevice

theorem checkBlit_failsEarly {src dst : BufferId} {srcRect dstRect : Rect} {ops : BlitOps} :
    (checkBlit pool src srcRect dst dstRect ops).FailsEarly := by
  refine failsEarly_bind translated_asks fun words => ?_
  refine failsEarly_bind asks_ofOption fun source => failsEarly_bind asks_ofOption fun target => ?_
  refine failsEarly_bind asks_ofOption fun srcView => failsEarly_bind asks_ofOption fun dstView => ?_
  refine failsEarly_bind engineRect_asks fun srcRect => ?_
  refine failsEarly_bind engineRect_asks fun dstRect => ?_
  exact (askEngine_failsByDevice fun _ => failsByDevice_pure).failsEarly

theorem blit_failsEarly {prepared : PreparedBlit} : (blit pool prepared).FailsEarly := by
  refine failsEarly_bind asks_ofOption fun source => failsEarly_bind asks_ofOption fun srcView => ?_
  refine failsEarly_bind asks_ofOption fun target => failsEarly_bind asks_ofOption fun dstView => ?_
  exact (failsByDevice_lift.bind fun _ => orEngineError_failsByDevice).failsEarly

theorem processWhole_failsEarly {pair : WholePair} {usage : Usage} :
    (processWhole pair usage).FailsEarly := by
  refine (askEngine_failsByDevice fun _ => ?_).failsEarly
  exact failsByDevice_lift.bind fun _ => orEngineError_failsByDevice

theorem copy_failsEarly {src dst : BufferId} : (copy pool src dst).FailsEarly := by
  refine failsEarly_bind wholePair_asks fun pair => ?_
  split
  · exact processWhole_failsEarly
  · exact failsEarly_throw

theorem rotate_failsEarly {src dst : BufferId} {op : CopyOp} :
    (rotate pool src dst op).FailsEarly := by
  refine failsEarly_bind wholePair_asks fun pair => ?_
  split
  · split
    · exact processWhole_failsEarly
    · exact failsEarly_throw
  · exact failsEarly_throw

theorem flip_failsEarly {src dst : BufferId} {op : CopyOp} :
    (flip pool src dst op).FailsEarly := by
  refine failsEarly_bind wholePair_asks fun pair => ?_
  split
  · split
    · exact processWhole_failsEarly
    · exact failsEarly_throw
  · exact failsEarly_throw

/-- An operation that fails by a mistake of its caller has made no calls of the
device, or it has given back a named object that is too small. -/
theorem perform_foundEarly {op : Operation} {t : List Exchange} {error : DriverError}
    (h : Step perform pool ⟨op, t, .error error⟩ pool')
    (misuse : error.isDeviceFailure = false) :
    (∀ x ∈ t, x.call.isDeviceCall = false) ∨
      ∃ name desc pitch, op = .importName name desc pitch ∧
        GivenBack name desc pitch t error := by
  by_cases hop : op.isCreation
  · have hcreation := perform_creation hop h
    cases hcreation with
    | admitted created => cases op <;> cases created
    | refused hrefusal => exact .inl (hrefusal.early misuse)
    | givenBack hgiven => exact .inr ⟨_, _, _, rfl, hgiven⟩
  · refine .inl ?_
    suffices hearly : FoundEarly t (.error error : Except DriverError op.Result) from
      hearly error rfl misuse
    cases op with
    | create | importHandle | importName | importPrime => exact absurd rfl hop
    | flush =>
      obtain ⟨rfl, -⟩ := runs_done_iff.1 h
      exact foundEarly_nil
    | map id => exact map_failsEarly.commit _ _ h
    | unmap id => exact unmap_foundEarly _ _ h
    | destroy id => exact destroy_foundEarly _ _ h
    | exportPrime id => exact exportPrime_failsEarly.observe _ _ h
    | fillRect id rect color => exact fillRect_failsEarly.observe _ _ h
    | checkBlit src srcRect dst dstRect ops => exact checkBlit_failsEarly.observe _ _ h
    | blit prepared => exact blit_failsEarly.observe _ _ h
    | copy src dst => exact copy_failsEarly.observe _ _ h
    | rotate src dst op => exact rotate_failsEarly.observe _ _ h
    | flip src dst op => exact flip_failsEarly.observe _ _ h

end DrmSurface.Rockchip
