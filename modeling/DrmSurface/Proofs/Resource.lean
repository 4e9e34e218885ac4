import DrmSurface.Proofs.History
import Mathlib.Algebra.BigOperators.Group.Multiset.Basic
import Mathlib.Tactic.Abel

/-!
# What calls acquire and give back

The kernel and the engine hand out four kinds of resources: mappings, handles
of the engine, prime descriptors and handles of objects.  A resource may be
handed out more than once, so resources are counted as multisets.

There are four groups.

* `Resource`, and what one call acquires and what it gives back.
* `acquired` and `released`, the same for a list of calls.
* `Episode.acquired`, which also counts what a caller hands to an operation.
* `Balanced`, the equation between what is held before and after some calls
  and what these calls acquire and give back.
-/

namespace DrmSurface

/-! ## Resources -/

/-- What a driver has to give back. -/
inductive Resource where
  | mapping (m : Mapping)
  /-- The engine's handle of an imported buffer. -/
  | view (handle : EngineHandle)
  | prime (fd : Descriptor)
  /-- The kernel's handle of an object. -/
  | object (handle : UInt32)
  deriving DecidableEq

namespace Resource

/-- Whether a resource is a prime descriptor. -/
def isPrime : Resource → Bool
  | prime _ => true
  | _ => false

@[simp] theorem isPrime_mapping (m : Mapping) : (mapping m).isPrime = false := rfl

@[simp] theorem isPrime_view (handle : EngineHandle) : (view handle).isPrime = false := rfl

@[simp] theorem isPrime_prime (fd : Descriptor) : (prime fd).isPrime = true := rfl

@[simp] theorem isPrime_object (handle : UInt32) : (object handle).isPrime = false := rfl

/-- At most one resource. -/
def perhaps (r : Option Resource) : Multiset Resource := r.elim 0 singleton

@[simp] theorem perhaps_none : perhaps none = 0 := rfl

@[simp] theorem perhaps_some (r : Resource) : perhaps (some r) = {r} := rfl

end Resource

/-- What a granted request to the device acquires.  A number below zero is no
descriptor. -/
def Request.acquired : (request : Request) → request.Reply → Multiset Resource
  | .primeHandleToFd .., number => if number < 0 then 0 else {.prime ⟨number.toNat⟩}
  | .primeFdToHandle .., handle => {.object handle}
  | .gemOpen _, reply => {.object reply.handle}
  | .rockchipGemCreate .., handle => {.object handle}
  | .vmwAllocDmabuf .., reply => {.object reply.handle}
  | _, _ => 0

/-- What a request to the device gives back, whatever is answered. -/
def Request.released : Request → Multiset Resource
  | .gemClose handle | .vmwUnrefDmabuf handle => {.object handle}
  | _ => 0

namespace Prog.Exchange

/-- What a call has acquired. -/
def acquired : Exchange → Multiset Resource
  | ⟨.ioctl request, .ok reply⟩ => request.acquired reply
  | ⟨.map _ length _, .ok start⟩ => {.mapping ⟨start, length⟩}
  | ⟨.engine (.importBuffer ..), .ok handle⟩ => {.view handle}
  | _ => 0

/-- What a call gives back, whatever is answered. -/
def released : Exchange → Multiset Resource
  | ⟨.ioctl request, _⟩ => request.released
  | ⟨.unmap m, _⟩ => {.mapping m}
  | ⟨.closePrime fd, _⟩ => {.prime fd}
  | ⟨.engine (.release handle), _⟩ => {.view handle}
  | _ => 0

variable {x : Exchange} {fd : Descriptor}

theorem acquired_export {handle flags : UInt32} {number : Int} :
    acquired ⟨.ioctl (.primeHandleToFd handle flags), .ok number⟩ =
      if number < 0 then 0 else {.prime ⟨number.toNat⟩} := rfl

/-- A prime descriptor is acquired by an export only. -/
theorem call_of_prime_acquired (h : .prime fd ∈ x.acquired) :
    ∃ handle flags, x.call = .ioctl (.primeHandleToFd handle flags) := by
  obtain ⟨c, answer⟩ := x
  cases c with
  | ioctl request =>
    cases request with
    | primeHandleToFd handle flags => exact ⟨handle, flags, rfl⟩
    | _ => cases answer <;> simp [acquired, Request.acquired] at h
  | map => cases answer <;> simp [acquired] at h
  | engine request => cases request <;> cases answer <;> simp [acquired] at h
  | _ => simp [acquired] at h

/-- A prime descriptor is given back through the device only. -/
theorem call_of_prime_released (h : .prime fd ∈ x.released) : x.call = .closePrime fd := by
  obtain ⟨c, answer⟩ := x
  cases c with
  | ioctl request => cases request <;> simp [released, Request.released] at h
  | engine request => cases request <;> simp [released] at h
  | closePrime fd' =>
    have h : fd = fd' := by simpa [released] using h
    rw [h]
  | _ => simp [released] at h

end Prog.Exchange

open Prog (Exchange)

/-! ## Lists of calls -/

/-- What some calls have acquired. -/
def acquired (trace : List Exchange) : Multiset Resource := (trace.map (·.acquired)).sum

/-- What some calls give back. -/
def released (trace : List Exchange) : Multiset Resource := (trace.map (·.released)).sum

@[simp] theorem acquired_nil : acquired [] = 0 := rfl

@[simp] theorem released_nil : released [] = 0 := rfl

@[simp] theorem acquired_cons (x : Exchange) (t : List Exchange) :
    acquired (x :: t) = x.acquired + acquired t := by
  simp [acquired]

@[simp] theorem released_cons (x : Exchange) (t : List Exchange) :
    released (x :: t) = x.released + released t := by
  simp [released]

@[simp] theorem acquired_append (t₁ t₂ : List Exchange) :
    acquired (t₁ ++ t₂) = acquired t₁ + acquired t₂ := by
  simp [acquired]

@[simp] theorem released_append (t₁ t₂ : List Exchange) :
    released (t₁ ++ t₂) = released t₁ + released t₂ := by
  simp [released]

theorem acquired_callsOf (history : List Episode) :
    acquired (callsOf history) = (history.map fun e => acquired e.trace).sum := by
  induction history with
  | nil => rfl
  | cons e history ih => rw [callsOf_cons, acquired_append, ih, List.map_cons, List.sum_cons]

theorem mem_acquired {r : Resource} {trace : List Exchange} :
    r ∈ acquired trace ↔ ∃ x ∈ trace, r ∈ x.acquired := by
  induction trace with
  | nil => simp
  | cons x t ih => simp [ih]

theorem mem_released {r : Resource} {trace : List Exchange} :
    r ∈ released trace ↔ ∃ x ∈ trace, r ∈ x.released := by
  induction trace with
  | nil => simp
  | cons x t ih => simp [ih]

theorem acquired_eq_zero {trace : List Exchange} (h : ∀ x ∈ trace, x.acquired = 0) :
    acquired trace = 0 := by
  apply Multiset.eq_zero_of_forall_notMem
  intro r hr
  obtain ⟨x, hx, hr⟩ := mem_acquired.1 hr
  rw [h x hx] at hr
  exact absurd hr (Multiset.notMem_zero r)

theorem released_eq_zero {trace : List Exchange} (h : ∀ x ∈ trace, x.released = 0) :
    released trace = 0 := by
  apply Multiset.eq_zero_of_forall_notMem
  intro r hr
  obtain ⟨x, hx, hr⟩ := mem_released.1 hr
  rw [h x hx] at hr
  exact absurd hr (Multiset.notMem_zero r)

/-! ## Episodes -/

/-- What the driver has acquired in an episode.  A handle or a descriptor
that is imported comes from the caller, and a descriptor that is exported
belongs to the caller. -/
def Episode.acquired : Episode → Multiset Resource
  | ⟨.importHandle handle .., trace, .ok _⟩ => {.object handle} + DrmSurface.acquired trace
  | ⟨.importPrime fd .., trace, .ok _⟩ => {.prime fd} + DrmSurface.acquired trace
  | ⟨.exportPrime _, trace, _⟩ => (DrmSurface.acquired trace).filter (¬ ·.isPrime)
  | ⟨_, trace, _⟩ => DrmSurface.acquired trace

/-! ## The equation -/

/-- The equation between what is held before and after some calls. -/
def Balanced (before after : Multiset Resource) (trace : List Exchange) : Prop :=
  before + acquired trace = after + released trace

namespace Balanced

variable {a b c : Multiset Resource} {t t₁ t₂ : List Exchange}

theorem nil : Balanced a a [] := rfl

theorem trans (h₁ : Balanced a b t₁) (h₂ : Balanced b c t₂) : Balanced a c (t₁ ++ t₂) := by
  simp only [Balanced, acquired_append, released_append] at *
  calc a + (acquired t₁ + acquired t₂)
      = a + acquired t₁ + acquired t₂ := (add_assoc _ _ _).symm
    _ = b + acquired t₂ + released t₁ := by rw [h₁]; abel
    _ = c + (released t₁ + released t₂) := by rw [h₂]; abel

theorem log {n : Notice} : Balanced a a [⟨.log n, ()⟩] := rfl

theorem exported {handle flags : UInt32} {fd : Descriptor} :
    Balanced 0 {.prime fd} [⟨.ioctl (.primeHandleToFd handle flags), .ok fd.number⟩] := by
  have hnum : ¬ (fd.number : Int) < 0 := by omega
  rw [Balanced, acquired_cons, Exchange.acquired_export, if_neg hnum]
  rfl

theorem not_exported {handle flags : UInt32} {number : Int} (hneg : number < 0) :
    Balanced 0 0 [⟨.ioctl (.primeHandleToFd handle flags), .ok number⟩] := by
  rw [Balanced, acquired_cons, Exchange.acquired_export, if_pos hneg]
  rfl

/-- What stays held all the time does not matter. -/
theorem frame (h : Balanced a b t) : Balanced (c + a) (c + b) t := by
  simp only [Balanced] at *
  rw [add_assoc, h, add_assoc]

theorem gain (h : Balanced 0 b t) : Balanced c (c + b) t := by
  simpa using h.frame (c := c)

theorem lose (h : Balanced a 0 t) : Balanced (c + a) c t := by
  simpa using h.frame (c := c)

theorem keep (h : Balanced 0 0 t) : Balanced c c t := by
  simpa using h.frame (c := c)

/-- Two things are given back one after another. -/
theorem add (h₁ : Balanced a 0 t₁) (h₂ : Balanced b 0 t₂) : Balanced (a + b) 0 (t₁ ++ t₂) := by
  have h := h₁.lose (c := b)
  rw [add_comm b a] at h
  exact h.trans h₂

end Balanced

end DrmSurface
