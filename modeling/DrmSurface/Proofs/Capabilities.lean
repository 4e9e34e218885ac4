import DrmSurface.Driver.Capabilities
import DrmSurface.Proofs.Driver
import DrmSurface.Proofs.Refusal

/-!
# Capabilities

A driver says in advance which of the optional operations it has.  Whoever
relies on it may: an operation is answered as not supported exactly if its
capability is missing, and such an answer costs nothing.

There are three groups.

* The optional operations of the Rockchip driver, none of which fails as not
  supported, apart from the flush that it does not have.
* `Missing`, what a call of an operation does that a driver does not have.
* `Driver.capabilities_honest`, for both backends.
-/

namespace DrmSurface

open Prog (Exchange)

/-- Whether an error says that the driver does not have an operation. -/
def DriverError.isNotSupported : DriverError → Bool
  | notSupported _ => true
  | _ => false

namespace Attempt

variable {α ε : Type}

/-- The attempt never ends as not supported. -/
def Supported (m : Attempt α) : Prop := m.FailsWith (·.isNotSupported = false)

theorem supported_throw {e : DriverError} (h : e.isNotSupported = false) :
    (throw e : Attempt α).Supported :=
  failsWith_throw h

theorem supported_orRefuse {outcome : Except ε α} {notice : ε → Notice} {error : ε → DriverError}
    (h : ∀ e, (error e).isNotSupported = false) : (orRefuse outcome notice error).Supported :=
  failsWith_orRefuse h

theorem supported_ofOption {value : Option α} {e : DriverError} (h : e.isNotSupported = false) :
    (ofOption value e).Supported :=
  failsWith_ofOption h

end Attempt

/-! ## Operations of the Rockchip driver -/

namespace Rockchip

open Attempt

variable {pool : State} {id : BufferId}

theorem validated_supported {source : ImportSource} {desc : SurfaceDesc} {pitch : UInt32}
    {size? : Option Nat} : (validated source desc pitch size?).Supported :=
  supported_orRefuse fun _ => rfl

theorem importHandle_supported {handle : UInt32} {size? : Option Nat} {desc : SurfaceDesc}
    {pitch : UInt32} : (importHandle pool handle size? desc pitch).Supported :=
  validated_supported.bind fun _ => failsWith_lift

theorem importName_supported {name : UInt32} {desc : SurfaceDesc} {pitch : UInt32} :
    (importName pool name desc pitch).Supported := by
  refine validated_supported.bind fun g => failsWith_lift.bind fun outcome => ?_
  refine (supported_orRefuse fun _ => rfl).bind fun object => ?_
  split
  · refine failsWith_lift.bind fun _ => failsWith_lift.bind fun _ => ?_
    exact failsWith_lift.bind fun _ => supported_throw rfl
  · exact failsWith_lift

theorem openPrime_supported {fd : Descriptor} {size? : Option Nat} {desc : SurfaceDesc}
    {pitch : UInt32} : (openPrime fd size? desc pitch).Supported := by
  refine failsWith_lift.bind fun outcome => ?_
  refine (supported_orRefuse fun _ => rfl).bind fun fileSize => failsWith_lift.bind fun _ => ?_
  dsimp only
  split
  · exact failsWith_lift.bind fun _ => supported_throw rfl
  · refine validated_supported.bind fun g => failsWith_lift.bind fun outcome => ?_
    exact (supported_orRefuse fun _ => rfl).bind fun _ => failsWith_pure

theorem importPrime_supported {fd : Descriptor} {size? : Option Nat} {desc : SurfaceDesc}
    {pitch : UInt32} : (importPrime pool fd size? desc pitch).Ensures fun _ r =>
      ∀ error, r.1 = .error error → error.isNotSupported = false := by
  refine Prog.ensures_bind_iff.2 (openPrime_supported.mono fun t outcome hE => ?_)
  cases outcome with
  | error e =>
    refine Prog.ensures_bind_of_forall fun _ => Prog.ensures_pure_iff.2 ?_
    simpa using hE e rfl
  | ok opened => exact Prog.ensures_bind_of_forall fun _ => Prog.ensures_pure_iff.2 (by simp)

theorem orKernelError_supported {α : Type} {op : KernelOp} {outcome : Except Errno α} :
    (orKernelError op outcome).Supported := by
  cases outcome with
  | ok a => exact failsWith_pure
  | error e => exact supported_throw rfl

theorem exportPrime_supported : (exportPrime pool id).Supported := by
  refine (supported_ofOption rfl).bind fun b => ?_
  split
  · exact failsWith_lift.bind fun _ => orKernelError_supported
  · exact failsWith_lift.bind fun _ => orKernelError_supported

theorem engineRect_supported {b : Buffer} {rect : Rect} : (engineRect b rect).Supported := by
  unfold engineRect
  split
  · exact supported_ofOption rfl
  · exact supported_throw rfl

theorem orEngineError_supported {outcome : Except EngineError Unit} :
    (orEngineError outcome).Supported :=
  supported_orRefuse fun _ => rfl

theorem fillRect_supported {rect : Rect} {color : UInt32} :
    (fillRect pool id rect color).Supported := by
  refine (supported_ofOption rfl).bind fun b => (supported_ofOption rfl).bind fun view => ?_
  refine engineRect_supported.bind fun target => failsWith_lift.bind fun _ => ?_
  exact orEngineError_supported.bind fun _ => failsWith_lift.bind fun _ => orEngineError_supported

theorem translated_supported {ops : BlitOps} : (translated ops).Supported := by
  unfold translated
  split
  · exact failsWith_pure
  · exact supported_throw rfl

theorem checkBlit_supported {src dst : BufferId} {srcRect dstRect : Rect} {ops : BlitOps} :
    (checkBlit pool src srcRect dst dstRect ops).Supported := by
  refine translated_supported.bind fun words => (supported_ofOption rfl).bind fun source => ?_
  refine (supported_ofOption rfl).bind fun target => (supported_ofOption rfl).bind fun srcView => ?_
  refine (supported_ofOption rfl).bind fun dstView => ?_
  refine engineRect_supported.bind fun srcRect => engineRect_supported.bind fun dstRect => ?_
  exact failsWith_lift.bind fun _ => orEngineError_supported.bind fun _ => failsWith_pure

theorem blit_supported {prepared : PreparedBlit} : (blit pool prepared).Supported := by
  refine (supported_ofOption rfl).bind fun source => (supported_ofOption rfl).bind fun srcView => ?_
  refine (supported_ofOption rfl).bind fun target => (supported_ofOption rfl).bind fun dstView => ?_
  exact failsWith_lift.bind fun _ => orEngineError_supported

theorem wholePair_supported {src dst : BufferId} : (wholePair pool src dst).Supported := by
  refine (supported_ofOption rfl).bind fun source => (supported_ofOption rfl).bind fun target => ?_
  refine (supported_ofOption rfl).bind fun _ => (supported_ofOption rfl).bind fun _ => ?_
  refine (supported_ofOption rfl).bind fun _ => (supported_ofOption rfl).bind fun _ => ?_
  exact failsWith_pure

theorem processWhole_supported {pair : WholePair} {usage : Usage} :
    (processWhole pair usage).Supported := by
  refine failsWith_lift.bind fun _ => orEngineError_supported.bind fun _ => ?_
  exact failsWith_lift.bind fun _ => orEngineError_supported

theorem copy_supported {src dst : BufferId} : (copy pool src dst).Supported := by
  refine wholePair_supported.bind fun pair => ?_
  split
  · exact processWhole_supported
  · exact supported_throw rfl

theorem rotate_supported {src dst : BufferId} {op : CopyOp} :
    (rotate pool src dst op).Supported := by
  refine wholePair_supported.bind fun pair => ?_
  split
  · split
    · exact processWhole_supported
    · exact supported_throw rfl
  · exact supported_throw rfl

theorem flip_supported {src dst : BufferId} {op : CopyOp} : (flip pool src dst op).Supported := by
  refine wholePair_supported.bind fun pair => ?_
  split
  · split
    · exact processWhole_supported
    · exact supported_throw rfl
  · exact supported_throw rfl

/-- Every optional operation but the flush is there. -/
theorem perform_supported {op : Operation} {slot : Slot} {t : List Exchange}
    {result : Except DriverError op.Result} {pool' : State} (hslot : op.slot? = some slot)
    (hflush : slot ≠ .flush) (h : Step perform pool ⟨op, t, result⟩ pool') :
    ∀ error, result = .error error → error.isNotSupported = false := by
  cases op with
  | create | map | unmap | destroy => cases hslot
  | flush =>
    cases hslot
    exact absurd rfl hflush
  | importHandle handle size? desc pitch => exact importHandle_supported.commit _ _ h
  | importName name desc pitch => exact importName_supported.commit _ _ h
  | importPrime fd size? desc pitch => exact importPrime_supported _ _ h
  | exportPrime id => exact exportPrime_supported.observe _ _ h
  | fillRect id rect color => exact fillRect_supported.observe _ _ h
  | checkBlit src srcRect dst dstRect ops => exact checkBlit_supported.observe _ _ h
  | blit prepared => exact blit_supported.observe _ _ h
  | copy src dst => exact copy_supported.observe _ _ h
  | rotate src dst op => exact rotate_supported.observe _ _ h
  | flip src dst op => exact flip_supported.observe _ _ h

end Rockchip

/-! ## Operations that are missing -/

/-- An operation that a driver does not have: it can be called, and whenever it is
called it is answered as not supported, without any call of the device or the
engine and without any change. -/
structure Missing {σ : Type} (table : Table σ) (s : σ) (op : Operation) (slot : Slot) : Prop where
  answered : ∃ t, Step table s ⟨op, t, .error (.notSupported slot)⟩ s
  only : ∀ {t result s'}, Step table s ⟨op, t, result⟩ s' →
    result = .error (.notSupported slot) ∧ (∀ x ∈ t, x.call.isDeviceCall = false) ∧ s' = s

/-- An operation whose answer is all that it does. -/
theorem missing_of_pure {σ : Type} {table : Table σ} {s : σ} {op : Operation} {slot : Slot}
    (h : table s op = pure (.error (.notSupported slot), s)) : Missing table s op slot where
  answered := ⟨[], by rw [Step, h]; exact .done _⟩
  only now := by
    rw [Step, h] at now
    obtain ⟨rfl, heq⟩ := Prog.runs_done_iff.1 now
    cases heq
    exact ⟨rfl, by simp, rfl⟩

theorem Rockchip.missing_flush {pool : State} : Missing perform pool .flush .flush :=
  missing_of_pure rfl

/-- None of the optional operations is there.  A descriptor that was handed over
to an import is closed all the same, which is no call of the device. -/
theorem Vmwgfx.missing {pageSize : Nat} {pool : State} {op : Operation} {slot : Slot}
    (hslot : op.slot? = some slot) : Missing (perform pageSize) pool op slot := by
  cases op with
  | create | map | unmap | destroy => cases hslot
  | importPrime fd size? desc pitch =>
    cases hslot
    refine ⟨⟨_, .ask (c := .close fd) () (.done _)⟩, fun now => ?_⟩
    obtain ⟨answer, rest, rfl, hrest⟩ := Prog.runs_ask_iff.1 now
    obtain ⟨rfl, heq⟩ := Prog.runs_done_iff.1 hrest
    cases heq
    exact ⟨rfl, by simp [Call.isDeviceCall], rfl⟩
  | flush | importHandle | importName | exportPrime | fillRect | checkBlit | blit | copy | rotate
  | flip =>
    cases hslot
    exact missing_of_pure rfl

/-- What is missing of a backend is missing of its driver. -/
theorem Missing.embed {σ τ : Type} {table : Table σ} {table' : Table τ} {f : σ → τ} {s : σ}
    {op : Operation} {slot : Slot}
    (hstep : ∀ s e d, Step table' (f s) e d ↔ ∃ s', d = f s' ∧ Step table s e s')
    (h : Missing table s op slot) : Missing table' (f s) op slot where
  answered := h.answered.imp fun t now => (hstep s _ _).2 ⟨s, rfl, now⟩
  only now := by
    obtain ⟨s', rfl, now'⟩ := (hstep s _ _).1 now
    obtain ⟨hresult, hcalls, rfl⟩ := h.only now'
    exact ⟨hresult, hcalls, rfl⟩

/-! ## Both backends -/

theorem Capabilities.contains_none (slot : Slot) :
    none.contains slot.capability = false ↔ slot ≠ .createDriver := by
  cases slot <;> decide

theorem Capabilities.contains_rockchip (slot : Slot) :
    (imports ||| exportPrime ||| accelerated).contains slot.capability = false ↔
      slot = .flush := by
  cases slot <;> decide

namespace Driver

variable {pageSize : Nat} {d : Driver} {op : Operation} {slot : Slot}

/-- An operation without its capability is missing. -/
theorem missing_of_lacks (hslot : op.slot? = some slot)
    (h : d.capabilities.contains slot.capability = false) :
    Missing (perform pageSize) d op slot := by
  cases d with
  | vmwgfx pool => exact (Vmwgfx.missing hslot).embed step_vmwgfx_iff
  | rockchip pool =>
    obtain rfl := (Capabilities.contains_rockchip slot).1 h
    obtain rfl : op = .flush := by
      cases op <;> first | rfl | cases hslot
    exact Rockchip.missing_flush.embed step_rockchip_iff

/-- An operation with its capability never fails as not supported. -/
theorem supported_of_has (hslot : op.slot? = some slot)
    (h : d.capabilities.contains slot.capability ≠ false) {t : List Exchange}
    {result : Except DriverError op.Result} {d' : Driver}
    (now : Step (perform pageSize) d ⟨op, t, result⟩ d') :
    ∀ error, result = .error error → error.isNotSupported = false := by
  cases d with
  | vmwgfx pool =>
    refine absurd ((Capabilities.contains_none slot).2 ?_) h
    rintro rfl
    cases op <;> cases hslot
  | rockchip pool =>
    obtain ⟨pool', rfl, hpool⟩ := (step_rockchip_iff pool _ d').1 now
    refine Rockchip.perform_supported hslot ?_ hpool
    rintro rfl
    exact h ((Capabilities.contains_rockchip _).2 rfl)

/-- The capabilities of a driver are honest.  Whenever an optional operation is
called, it is answered as not supported if its capability is missing, and only
then.  Such an answer names the operation, it comes without a call of the
device or the engine, and the driver stays as it is. -/
theorem capabilities_honest (hslot : op.slot? = some slot) :
    (∀ t result d', Step (perform pageSize) d ⟨op, t, result⟩ d' →
      ((∃ s, result = .error (.notSupported s)) ↔
        d.capabilities.contains slot.capability = false)) ∧
    (∀ t s d', Step (perform pageSize) d ⟨op, t, .error (.notSupported s)⟩ d' →
      s = slot ∧ (∀ x ∈ t, x.call.isDeviceCall = false) ∧ d' = d) ∧
    (d.capabilities.contains slot.capability = false →
      ∃ t, Step (perform pageSize) d ⟨op, t, .error (.notSupported slot)⟩ d) := by
  have hiff : ∀ t result d', Step (perform pageSize) d ⟨op, t, result⟩ d' →
      ((∃ s, result = .error (.notSupported s)) ↔
        d.capabilities.contains slot.capability = false) := by
    intro t result d' now
    constructor
    · rintro ⟨s, rfl⟩
      by_contra hhas
      cases supported_of_has hslot hhas now _ rfl
    · intro hlacks
      exact ⟨slot, ((missing_of_lacks hslot hlacks).only now).1⟩
  refine ⟨hiff, ?_, fun hlacks => (missing_of_lacks hslot hlacks).answered⟩
  intro t s d' now
  have hlacks := (hiff t _ d' now).1 ⟨s, rfl⟩
  obtain ⟨hresult, hcalls, hsame⟩ := (missing_of_lacks hslot hlacks).only now
  cases hresult
  exact ⟨rfl, hcalls, hsame⟩

/-- The import of a descriptor, which one driver has and the other does not. -/
theorem capabilities_honest_sample :
    (∃ t, Step (perform 4096) (.vmwgfx ∅) ⟨.importPrime ⟨5⟩ none ⟨.xrgb8888, 0, 32, 32⟩ 128, t,
        .error (.notSupported .importPrime)⟩ (.vmwgfx ∅) ∧
      ∀ x ∈ t, x.call.isDeviceCall = false) ∧
    ∃ t d', Step (perform 4096) (.rockchip ∅) ⟨.importPrime ⟨5⟩ none ⟨.xrgb8888, 0, 32, 32⟩ 128, t,
        .ok .first⟩ d' ∧
      (rockchip ∅).capabilities.contains .importPrime ≠ false := by
  have hslot : (Operation.importPrime ⟨5⟩ none ⟨.xrgb8888, 0, 32, 32⟩ 128).slot? =
      some .importPrime := rfl
  constructor
  · obtain ⟨-, hfree, hanswered⟩ := capabilities_honest (d := .vmwgfx ∅) hslot
    obtain ⟨t, now⟩ := hanswered ((Capabilities.contains_none .importPrime).2 (by decide))
    exact ⟨t, now, (hfree t _ _ now).2.1⟩
  · have hplay : ((perform 4096 (.rockchip ∅)
        (.importPrime ⟨5⟩ none ⟨.xrgb8888, 0, 32, 32⟩ 128)).play granted).map
          (fun r => r.2.1) = some (.ok .first) := rfl
    obtain ⟨⟨t, result, d'⟩, hrun, rfl⟩ := Option.map_eq_some_iff.1 hplay
    have now := Prog.runs_of_play hrun
    obtain ⟨hiff, -, -⟩ := capabilities_honest (d := .rockchip ∅) hslot
    refine ⟨t, d', now, fun hlacks => ?_⟩
    obtain ⟨s, hs⟩ := (hiff t _ d' now).2 hlacks
    cases hs

end Driver

end DrmSurface
