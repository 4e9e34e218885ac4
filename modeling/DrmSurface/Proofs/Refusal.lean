import DrmSurface.Proofs.Ensures
import DrmSurface.Proofs.Resource

/-!
# Refused operations

An operation fails because the device or the engine has refused a call, or
because its caller has made a mistake.  A mistake should be found before the
device is asked for anything.

There are two groups.

* `Call.isDeviceCall` and `deviceCalls`, and `Refusal`, what the calls of a
  failed operation should look like: they have acquired nothing, and none of
  them has reached the device if the mistake was the caller's.
* The same for the parts of an operation.  An attempt that `FailsByDevice` can
  stand behind calls of the device, and one that `FailsEarly` only behind
  other calls.
-/

namespace DrmSurface

open Prog (Exchange)

/-! ## Refusals -/

/-- A call that reaches the device or the engine. -/
def Call.isDeviceCall : Call → Bool
  | .ioctl _ | .map .. | .unmap _ | .closePrime _ | .engine _ => true
  | _ => false

/-- The calls that reach the device or the engine, in order. -/
def deviceCalls (trace : List Exchange) : List Call :=
  (trace.map (·.call)).filter (·.isDeviceCall)

@[simp] theorem deviceCalls_append (t₁ t₂ : List Exchange) :
    deviceCalls (t₁ ++ t₂) = deviceCalls t₁ ++ deviceCalls t₂ := by
  simp [deviceCalls]

theorem Prog.Exchange.acquired_of_not_isDeviceCall {x : Exchange}
    (h : x.call.isDeviceCall = false) : x.acquired = 0 := by
  obtain ⟨c, answer⟩ := x
  cases c with
  | ioctl | map | engine => cases h
  | _ => rfl

theorem Prog.Exchange.released_of_not_isDeviceCall {x : Exchange}
    (h : x.call.isDeviceCall = false) : x.released = 0 := by
  obtain ⟨c, answer⟩ := x
  cases c with
  | ioctl | unmap | closePrime | engine => cases h
  | _ => rfl

/-- The calls of an operation that has failed have acquired nothing, and a
mistake of the caller was found before any call of the device. -/
structure Refusal (t : List Exchange) (error : DriverError) : Prop where
  nothing : acquired t = 0
  early : error.isDeviceFailure = false → ∀ x ∈ t, x.call.isDeviceCall = false

namespace Refusal

variable {t t₁ t₂ : List Exchange} {error : DriverError}

theorem of_early (h : ∀ x ∈ t, x.call.isDeviceCall = false) : Refusal t error where
  nothing := acquired_eq_zero fun x hx => Exchange.acquired_of_not_isDeviceCall (h x hx)
  early _ := h

theorem of_device (nothing : acquired t = 0) (h : error.isDeviceFailure = true) :
    Refusal t error where
  nothing := nothing
  early hmisuse := by
    rw [h] at hmisuse
    cases hmisuse

theorem append (h₁ : Refusal t₁ error) (h₂ : Refusal t₂ error) : Refusal (t₁ ++ t₂) error where
  nothing := by rw [acquired_append, h₁.nothing, h₂.nothing, add_zero]
  early hmisuse x hx := by
    rcases List.mem_append.1 hx with hx | hx
    · exact h₁.early hmisuse x hx
    · exact h₂.early hmisuse x hx

end Refusal

/-! ## Parts of an operation -/

namespace Attempt

open Prog

variable {α β ε σ : Type} {m : Attempt β} {f : β → Attempt α}

/-- The attempt fails only when the device or the engine has refused a call. -/
def FailsByDevice (m : Attempt α) : Prop :=
  m.run.Ensures fun _ outcome => ∀ error, outcome = .error error → error.isDeviceFailure = true

theorem failsByDevice_pure {a : α} : (pure a : Attempt α).FailsByDevice := failsWith_pure

theorem failsByDevice_lift {p : Prog α} : (liftM p : Attempt α).FailsByDevice := failsWith_lift

theorem failsByDevice_orRefuse {outcome : Except ε α} {notice : ε → Notice}
    {error : ε → DriverError} (h : ∀ e, (error e).isDeviceFailure = true) :
    (orRefuse outcome notice error).FailsByDevice :=
  failsWith_orRefuse h

theorem FailsByDevice.bind (hm : m.FailsByDevice) (hf : ∀ b, (f b).FailsByDevice) :
    (m >>= f).FailsByDevice :=
  FailsWith.bind hm hf

/-- A failure by a mistake of the caller comes before any call of the device. -/
def FoundEarly (t : List Exchange) (outcome : Except DriverError α) : Prop :=
  ∀ error, outcome = .error error → error.isDeviceFailure = false →
    ∀ x ∈ t, x.call.isDeviceCall = false

theorem foundEarly_nil {outcome : Except DriverError α} : FoundEarly [] outcome :=
  fun _ _ _ x hx => by cases hx

theorem foundEarly_ok {t : List Exchange} {a : α} : FoundEarly t (.ok a) :=
  fun _ h => by cases h

theorem foundEarly_of_device {t : List Exchange} {e : DriverError}
    (h : e.isDeviceFailure = true) : FoundEarly t (.error e : Except DriverError α) := by
  intro error herror hmisuse
  cases herror
  rw [h] at hmisuse
  cases hmisuse

/-- The attempt finds every mistake of the caller before it asks the device. -/
def FailsEarly (m : Attempt α) : Prop := m.run.Ensures FoundEarly

theorem FailsByDevice.failsEarly (h : m.FailsByDevice) : m.FailsEarly := by
  intro t outcome run error herror hmisuse
  rw [h t outcome run error herror] at hmisuse
  cases hmisuse

theorem failsEarly_of_asks (h : Asks (·.isDeviceCall = false) m.run) : m.FailsEarly :=
  fun t outcome run _ _ _ => h t outcome run

theorem failsEarly_throw {e : DriverError} : (throw e : Attempt α).FailsEarly :=
  failsEarly_of_asks asks_throw

/-- What comes first makes no calls of the device. -/
theorem failsEarly_bind (hm : Asks (·.isDeviceCall = false) m.run)
    (hf : ∀ b, (f b).FailsEarly) : (m >>= f).FailsEarly := by
  refine ensures_bind_iff.2 fun t outcome run => ?_
  have hearly := hm t outcome run
  cases outcome with
  | ok b =>
    refine (hf b).mono fun t' outcome' h error herror hmisuse x hx => ?_
    rcases List.mem_append.1 hx with hx | hx
    · exact hearly x hx
    · exact h error herror hmisuse x hx
  | error e => exact fun _ _ _ => hearly

theorem FailsEarly.commit {s : σ} {m : Attempt (α × σ)} (h : m.FailsEarly) :
    (commit s m).Ensures fun t r => FoundEarly t r.1 := by
  refine ensures_commit_iff.2 (h.mono fun t outcome h => ?_)
  cases outcome with
  | ok a => exact fun error herror => by cases herror
  | error e =>
    intro error herror
    cases herror
    exact h e rfl

theorem FailsEarly.observe {s : σ} {m : Attempt α} (h : m.FailsEarly) :
    (observe s m).Ensures fun t r => FoundEarly t r.1 :=
  ensures_observe_iff.2 h

end Attempt

end DrmSurface
