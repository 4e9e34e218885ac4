import DrmSurface.Proofs.Geometry
import DrmSurface.Proofs.History
import DrmSurface.Proofs.Refusal
import DrmSurface.Proofs.Rockchip.Calls

/-!
# How the Rockchip driver creates buffers

There are four ways to create a buffer.  Each one checks its arguments, asks
the device for an object, and leaves the rest to `admitted`, which refuses nothing.
So a creation that has an object fails in one place only: an object that was
opened by its name may be too small, and it is given back.

There are three groups.

* `Created`, what a creation does, and `GivenBack`, the one exception.
* The four creations, one by one.
* `perform_creation`, which puts them together.
-/

namespace DrmSurface.Rockchip

open Prog
open Attempt hiding asks_pure ensures_bind_iff ensures_pure_iff

/-! ## Outcomes -/

/-- The outcome of a creation.  Its last calls are those of `admitted`, or it
is refused. -/
def Created (pool : State) (desc : SurfaceDesc) (t : List Exchange) :
    Except DriverError BufferId × State → Prop
  | (.ok id, pool') => ∃ origin g t₁ t₂, t = t₁ ++ t₂ ∧
      Geometry.compute .rockchip desc = .ok g ∧
        (admitted pool origin desc g).Runs t₂ (id, pool')
  | (.error error, pool') => pool' = pool ∧ Refusal t error

/-- The calls of an import by name that finds its object too small. -/
def GivenBack (name : UInt32) (desc : SurfaceDesc) (pitch : UInt32) (t : List Exchange)
    (error : DriverError) : Prop :=
  ∃ g object answer rest, Geometry.validate .rockchip desc pitch none = .ok g ∧
    object.size < g.size ∧ error = .exceedsDescriptor g.size object.size ∧
      t = ⟨.ioctl (.gemOpen name), .ok object⟩ ::
        ⟨.log (notice (.objectTooSmall name object.size g.size)), ()⟩ ::
          ⟨.ioctl (.gemClose object.handle), answer⟩ :: rest ∧
        ∀ x ∈ rest, x.call.isDeviceCall = false

variable {pool pool' : State} {desc : SurfaceDesc} {pitch : UInt32} {size? : Option Nat}

/-! ## The four creations -/

theorem create_created {placement : Placement} :
    (commit pool (create pool desc placement)).Ensures (Created pool desc) := by
  rw [ensures_commit_iff, create, ensures_refuse_iff]
  cases hg : Geometry.compute .rockchip desc with
  | error e => exact ⟨rfl, .of_early (by simp [Call.isDeviceCall])⟩
  | ok g =>
    refine ensures_request_iff.2 (Device.ensures_ioctl_iff.2 (forall_except_iff.2 ⟨?_, ?_⟩))
    · exact fun handle => ensures_lift_iff.2 fun t r run => ⟨_, g, _, t, rfl, hg, run⟩
    · exact fun e => ⟨rfl, .of_device rfl rfl⟩

theorem importHandle_created {handle : UInt32} :
    (commit pool (importHandle pool handle size? desc pitch)).Ensures (Created pool desc) := by
  rw [ensures_commit_iff, importHandle, validated, ensures_refuse_iff]
  cases hg : Geometry.validate .rockchip desc pitch size? with
  | error e => exact ⟨rfl, .of_early (by simp [Call.isDeviceCall])⟩
  | ok g =>
    have hg := Geometry.compute_of_validate hg
    exact ensures_lift_iff.2 fun t r run => ⟨_, g, [], t, rfl, hg, run⟩

/-- A handle that is not taken over is not touched. -/
theorem importHandle_early {handle : UInt32} :
    (commit pool (importHandle pool handle size? desc pitch)).Ensures fun t r =>
      ∀ error, r.1 = .error error → ∀ x ∈ t, x.call.isDeviceCall = false := by
  rw [ensures_commit_iff, importHandle, validated, ensures_refuse_iff]
  cases Geometry.validate .rockchip desc pitch size? with
  | error e => simp [Call.isDeviceCall]
  | ok g => exact ensures_lift_iff.2 fun t r run error herror => by cases herror

theorem importName_created {name : UInt32} :
    (commit pool (importName pool name desc pitch)).Ensures fun t r =>
      Created pool desc t r ∨
        ∃ error, r = (.error error, pool) ∧ GivenBack name desc pitch t error := by
  rw [ensures_commit_iff, importName, validated, ensures_refuse_iff]
  cases hg : Geometry.validate .rockchip desc pitch none with
  | error e => exact .inl ⟨rfl, .of_early (by simp [Call.isDeviceCall])⟩
  | ok g =>
    refine ensures_request_iff.2 (Device.ensures_ioctl_iff.2 (forall_except_iff.2 ⟨?_, ?_⟩))
    · intro object
      dsimp only
      split
      · rename_i hsmall
        simp only [Attempt.ensures_bind_iff, ensures_lift_iff, ensures_log_iff]
        refine Device.ensures_ioctl_iff.2 fun closed => ensures_logFailure_iff.2 ?_
        cases closed with
        | ok _ =>
          refine ensures_throw_iff.2 (.inr ⟨_, rfl, g, object, _, [], hg, hsmall, rfl, rfl, ?_⟩)
          simp
        | error e =>
          refine ensures_throw_iff.2 (.inr ⟨_, rfl, g, object, _, _, hg, hsmall, rfl, rfl, ?_⟩)
          simp [Call.isDeviceCall]
      · have hg := Geometry.compute_of_validate hg
        exact ensures_lift_iff.2 fun t r run => .inl ⟨_, g, _, t, rfl, hg, run⟩
    · exact fun e => .inl ⟨rfl, .of_device rfl rfl⟩

theorem openPrime_opens {fd : Descriptor} :
    (openPrime fd size? desc pitch).run.Ensures fun t outcome =>
      match outcome with
      | .ok opened => Geometry.compute .rockchip desc = .ok opened.1
      | .error error => Refusal t error := by
  refine ensures_request_iff.2 (ensures_call_iff.2 (forall_except_iff.2 ⟨?_, ?_⟩))
  · intro fileSize
    refine Attempt.ensures_bind_iff.2 (ensures_lift_iff.2 (ensures_log_iff.2 ?_))
    dsimp only
    split
    · refine Attempt.ensures_bind_iff.2 (ensures_lift_iff.2 (ensures_log_iff.2 ?_))
      exact ensures_throw_iff.2 (.of_early (by simp [Call.isDeviceCall]))
    · refine ensures_refuse_iff.2 ?_
      cases hg : Geometry.validate .rockchip desc pitch (some (size?.getD fileSize)) with
      | error e => exact .of_early (by simp [Call.isDeviceCall])
      | ok g =>
        refine ensures_request_iff.2 (Device.ensures_ioctl_iff.2 (forall_except_iff.2 ⟨?_, ?_⟩))
        · exact fun handle => Attempt.ensures_pure_iff.2 (Geometry.compute_of_validate hg)
        · exact fun e => .of_device rfl rfl
  · exact fun e => .of_early (by simp [Call.isDeviceCall])

theorem importPrime_created {fd : Descriptor} :
    (importPrime pool fd size? desc pitch).Ensures (Created pool desc) := by
  refine ensures_bind_iff.2 (openPrime_opens.mono fun t outcome h => ?_)
  cases outcome with
  | error e =>
    refine ensures_bind_iff.2 (ensures_call_iff.2 fun _ => ensures_pure_iff.2 ?_)
    exact ⟨rfl, .append h (.of_early (by simp [Call.isDeviceCall]))⟩
  | ok opened =>
    refine ensures_bind_iff.2 fun t' r run => ensures_pure_iff.2 ?_
    exact ⟨_, opened.1, t, t', by simp, h, run⟩

/-! ## All of them -/

/-- An operation that may give out an id either admits a buffer, or it is
refused, or it gives back an object that is too small. -/
inductive Creation (pool : State) : Episode → State → Prop where
  | admitted {e : Episode} {origin : Origin} {desc : SurfaceDesc} {g : Geometry}
      {t₁ t₂ : List Exchange} {id : BufferId} {pool' : State} (created : e.created? = some id)
      (calls : e.trace = t₁ ++ t₂) (laidOut : Geometry.compute .rockchip desc = .ok g)
      (run : (admitted pool origin desc g).Runs t₂ (id, pool')) : Creation pool e pool'
  | refused {op : Operation} {t : List Exchange} {error : DriverError} (h : Refusal t error) :
      Creation pool ⟨op, t, .error error⟩ pool
  | givenBack {name : UInt32} {desc : SurfaceDesc} {pitch : UInt32} {t : List Exchange}
      {error : DriverError} (h : GivenBack name desc pitch t error) :
      Creation pool ⟨.importName name desc pitch, t, .error error⟩ pool

private theorem creation_aux {e : Episode} {result : Except DriverError BufferId}
    (hcreated : e.created? = result.toOption)
    (herror : ∀ error, result = .error error → e.result = .error error)
    (h : Created pool desc e.trace (result, pool')) : Creation pool e pool' := by
  cases result with
  | ok id =>
    obtain ⟨origin, g, t₁, t₂, ht, hg, run⟩ := h
    exact .admitted hcreated ht hg run
  | error error =>
    obtain ⟨rfl, h⟩ := h
    obtain ⟨op, t, result⟩ := e
    obtain rfl : result = .error error := herror error rfl
    exact .refused h

theorem perform_creation {e : Episode} (hop : e.op.isCreation) (h : Step perform pool e pool') :
    Creation pool e pool' := by
  obtain ⟨op, t, result⟩ := e
  cases op with
  | create desc placement =>
    exact creation_aux (by cases result <;> rfl) (fun _ h => h) (create_created _ _ h)
  | importHandle handle size? desc pitch =>
    exact creation_aux (by cases result <;> rfl) (fun _ h => h) (importHandle_created _ _ h)
  | importName name desc pitch =>
    rcases importName_created _ _ h with h | ⟨error, heq, hgiven⟩
    · exact creation_aux (by cases result <;> rfl) (fun _ h => h) h
    · cases heq
      exact .givenBack hgiven
  | importPrime fd size? desc pitch =>
    exact creation_aux (by cases result <;> rfl) (fun _ h => h) (importPrime_created _ _ h)
  | _ => cases hop

end DrmSurface.Rockchip
