import DrmSurface.Proofs.Held
import DrmSurface.Proofs.Rockchip.Stop

/-!
# The Rockchip driver gives back what it acquires

What a driver acquires in one life, from `new` to the end of its teardown, is
what it gives back.  The invariant is that the buffers of the pool hold all
that has been acquired and not been given back.  The one exception is a creation
that stops, which has acquired something for a buffer that does not come to be.

There are six groups.

* `held`, what a buffer holds, and `heldAll`, what a pool holds.
* The equation for each part of the driver, from the sharing of a buffer to
  the teardown.
* What kinds of calls acquire and give back.
* Episodes.  `perform_balanced` is the equation for one operation, and
  `filter_isPrime_acquired` says which prime descriptors count.
* Creations that stop, with `acquired_of_stops`.
* `resources_balanced`, the equation for a whole life, and `stopped_creation_leaks`,
  where it fails.
-/

namespace DrmSurface

namespace Rockchip

open Prog
open Attempt hiding asks_pure ensures_bind_iff ensures_pure_iff
open Resource (perhaps)

/-! ## What is held -/

/-- What a buffer holds. -/
def held (b : Buffer) : Multiset Resource :=
  perhaps (b.surface.mapping.map .mapping) + perhaps (b.view.map fun v => .view v.handle) +
    perhaps (b.surface.prime.map .prime) + {.object b.surface.handle}

/-- What the buffer with an id holds. -/
def heldAt (pool : State) (id : BufferId) : Multiset Resource := (pool.get? id).elim 0 held

/-- What the buffers of a pool hold. -/
def heldAll (pool : State) : Multiset Resource := (pool.buffers.values.map held).sum

variable {pool pool' : State} {id : BufferId} {b b' : Buffer}

/-- What all buffers hold is put together as for any pool. -/
theorem heldAll_eq (pool : State) : heldAll pool = pool.heldAll held := rfl

theorem held_shared {fd : Descriptor} (hprime : b.surface.prime = none) :
    held { b with surface := { b.surface with prime := some fd } } = held b + {.prime fd} := by
  simp only [held, hprime, Option.map_some, Option.map_none, Resource.perhaps_some,
    Resource.perhaps_none]
  abel

theorem held_viewed {v : EngineView} (hview : b.view = none) :
    held { b with view := some v } = held b + {.view v.handle} := by
  simp only [held, hview, Option.map_some, Option.map_none, Resource.perhaps_some,
    Resource.perhaps_none]
  abel

theorem held_mapped {m : Mapping} (hmapping : b.surface.mapping = none) :
    held { b with surface := { b.surface with mapping := some m } } = held b + {.mapping m} := by
  simp only [held, hmapping, Option.map_some, Option.map_none, Resource.perhaps_some,
    Resource.perhaps_none]
  abel

theorem held_unmapped {m : Mapping} (hmapping : b.surface.mapping = some m) :
    held b = held { b with surface := { b.surface with mapping := none } } + {.mapping m} := by
  simp only [held, hmapping, Option.map_some, Option.map_none, Resource.perhaps_some,
    Resource.perhaps_none]
  abel

/-! ## Parts of the driver -/

theorem share_balanced : (share b).Ensures fun t b' => Balanced (held b) (held b') t := by
  unfold share
  split
  · exact ensures_pure_iff.2 .nil
  · rename_i hprime
    refine ensures_bind_iff.2 (Device.ensures_primeHandleToFd_iff.2 ⟨fun fd => ?_, ?_, ?_⟩)
    · refine ensures_pure_iff.2 ?_
      show Balanced (held b) (held { b with surface := { b.surface with prime := some fd } }) _
      rw [held_shared hprime, List.append_nil]
      exact Balanced.exported.gain
    · intro number hneg
      refine ensures_bind_iff.2 (ensures_log_iff.2 (ensures_pure_iff.2 ?_))
      show Balanced (held b) (held b) _
      exact (Balanced.not_exported hneg).keep.trans .log
    · intro e
      exact ensures_bind_iff.2 (ensures_log_iff.2 (ensures_pure_iff.2 rfl))

theorem importView_balanced (hview : b.view = none) :
    (importView b).Ensures fun t b' => Balanced (held b) (held b') t := by
  refine ensures_importView_iff.2 ⟨fun _ => .nil, fun fd _ _ => ⟨fun handle => ?_, fun _ => rfl⟩⟩
  show Balanced (held b) (held { b with view := some (viewOf b handle) }) _
  rw [held_viewed hview]
  exact Balanced.gain rfl

theorem wrap_balanced (hview : b.view = none) :
    (wrap b).Ensures fun t b' => Balanced (held b) (held b') t := by
  rw [wrap, ensures_bind_iff]
  intro t b' run
  have hview' : b'.view = none := by
    rw [share_ensures b t b' run]
    exact hview
  exact (importView_balanced hview').mono fun _ _ h => (share_balanced t b' run).trans h

/-- The outcome of a creation.  With what its caller hands to it and what
it acquires it makes a buffer, or it keeps nothing. -/
def Gained (pool : State) (handed : Multiset Resource) (t : List Exchange) :
    Except DriverError BufferId × State → Prop
  | (.ok id, pool') => Balanced handed (heldAt pool' id) t
  | (.error _, pool') => pool' = pool ∧ Balanced 0 0 t

variable {desc : SurfaceDesc} {g : Geometry} {pitch : UInt32} {size? : Option Nat}

theorem admitted_balanced {origin : Origin} :
    (admitted pool origin desc g).Ensures fun t r =>
      Balanced (perhaps (origin.prime.map .prime) + {.object origin.handle})
        (heldAt r.2 r.1) t := by
  simp only [admitted, ensures_bind_iff, ensures_log_iff, ensures_pure_iff]
  refine (wrap_balanced rfl).mono fun t b h => ?_
  have hlog : Balanced (held (origin.buffer pool.nextId desc g))
      (held (origin.buffer pool.nextId desc g))
      [⟨.log (notice (.created pool.nextId origin.handle desc g)), ()⟩] := rfl
  have hbuffer : held (origin.buffer pool.nextId desc g) =
      perhaps (origin.prime.map .prime) + {.object origin.handle} := by
    simp [held, Origin.buffer, Surface.ofDesc]
  have hadd : heldAt (pool.add b) pool.nextId = held b := by
    simp [heldAt]
  rw [hadd, ← hbuffer, List.append_nil]
  exact hlog.trans h

theorem create_balanced {placement : Placement} :
    (commit pool (create pool desc placement)).Ensures (Gained pool 0) := by
  rw [ensures_commit_iff, create, ensures_refuse_iff]
  cases Geometry.compute .rockchip desc with
  | error e => exact ⟨rfl, rfl⟩
  | ok g =>
    refine ensures_request_iff.2 (Device.ensures_ioctl_iff.2 (forall_except_iff.2 ⟨?_, ?_⟩))
    · intro handle
      have hobject : Balanced 0 (0 + {.object handle})
          [⟨.ioctl (.rockchipGemCreate g.size (placementFlags placement)), .ok handle⟩] := rfl
      exact ensures_lift_iff.2 (admitted_balanced.mono fun t r h => hobject.trans h)
    · exact fun e => ⟨rfl, rfl⟩

theorem importHandle_balanced {handle : UInt32} :
    (commit pool (importHandle pool handle size? desc pitch)).Ensures
      (Gained pool {.object handle}) := by
  rw [ensures_commit_iff, importHandle, validated, ensures_refuse_iff]
  cases Geometry.validate .rockchip desc pitch size? with
  | error e => exact ⟨rfl, rfl⟩
  | ok g =>
    refine ensures_lift_iff.2 (admitted_balanced.mono fun t r h => ?_)
    simpa [Gained] using h

theorem importName_balanced {name : UInt32} :
    (commit pool (importName pool name desc pitch)).Ensures (Gained pool 0) := by
  rw [ensures_commit_iff, importName, validated, ensures_refuse_iff]
  cases Geometry.validate .rockchip desc pitch none with
  | error e => exact ⟨rfl, rfl⟩
  | ok g =>
    refine ensures_request_iff.2 (Device.ensures_ioctl_iff.2 (forall_except_iff.2 ⟨?_, ?_⟩))
    · intro object
      dsimp only
      split
      · -- The object is given back whatever the kernel answers.
        simp only [Attempt.ensures_bind_iff, ensures_lift_iff, ensures_log_iff]
        refine Device.ensures_ioctl_iff.2 fun closed => ensures_logFailure_iff.2 ?_
        cases closed with
        | ok _ => exact ensures_throw_iff.2 ⟨rfl, rfl⟩
        | error e => exact ensures_throw_iff.2 ⟨rfl, rfl⟩
      · have hobject : Balanced 0 (0 + {.object object.handle})
            [⟨.ioctl (.gemOpen name), .ok object⟩] := rfl
        exact ensures_lift_iff.2 (admitted_balanced.mono fun t r h => hobject.trans h)
    · exact fun e => ⟨rfl, rfl⟩

theorem openPrime_balanced {fd : Descriptor} :
    (openPrime fd size? desc pitch).run.Ensures fun t outcome =>
      match outcome with
      | .ok opened => Balanced 0 {.object opened.2} t
      | .error _ => Balanced 0 0 t := by
  refine ensures_request_iff.2 (ensures_call_iff.2 (forall_except_iff.2 ⟨?_, ?_⟩))
  · intro fileSize
    refine Attempt.ensures_bind_iff.2 (ensures_lift_iff.2 (ensures_log_iff.2 ?_))
    dsimp only
    split
    · refine Attempt.ensures_bind_iff.2 (ensures_lift_iff.2 (ensures_log_iff.2 ?_))
      exact ensures_throw_iff.2 rfl
    · refine ensures_refuse_iff.2 ?_
      cases Geometry.validate .rockchip desc pitch (some (size?.getD fileSize)) with
      | error e => rfl
      | ok g =>
        refine ensures_request_iff.2 (Device.ensures_ioctl_iff.2 (forall_except_iff.2 ⟨?_, ?_⟩))
        · exact fun handle => Attempt.ensures_pure_iff.2 rfl
        · exact fun e => rfl
  · exact fun e => rfl

theorem importPrime_balanced {fd : Descriptor} :
    (importPrime pool fd size? desc pitch).Ensures (Gained pool {.prime fd}) := by
  refine ensures_bind_iff.2 (openPrime_balanced.mono fun t outcome h => ?_)
  cases outcome with
  | error e =>
    refine ensures_bind_iff.2 (ensures_call_iff.2 fun _ => ensures_pure_iff.2 ?_)
    exact ⟨rfl, h.trans rfl⟩
  | ok opened =>
    refine ensures_bind_iff.2 (admitted_balanced.mono fun t' r h' => ensures_pure_iff.2 ?_)
    show Balanced {.prime fd} (heldAt r.2 r.1) (t ++ (t' ++ []))
    rw [List.append_nil]
    exact h.gain.trans h'

theorem mapSource_balanced :
    (mapSource b).run.Ensures fun t _ => Balanced 0 0 t := by
  unfold mapSource
  split
  · exact Attempt.ensures_pure_iff.2 rfl
  · refine ensures_request_iff.2 (Device.ensures_ioctl_iff.2 (forall_except_iff.2 ⟨?_, ?_⟩))
    · exact fun offset => Attempt.ensures_pure_iff.2 rfl
    · exact fun e => rfl

theorem map_balanced :
    (commit pool (map pool id)).Ensures fun t r => Balanced (heldAll pool) (heldAll r.2) t := by
  rw [ensures_commit_iff, map, Attempt.ensures_bind_iff, ensures_ofOption_iff]
  cases hget : pool.get? id with
  | none => exact .nil
  | some b =>
    dsimp only
    split
    · exact ensures_throw_iff.2 .nil
    · rename_i hmapped
      have hmapping : b.surface.mapping = none := by
        simpa [Surface.isMapped] using hmapped
      refine Attempt.ensures_bind_iff.2 (mapSource_balanced.mono fun t outcome h => ?_)
      cases outcome with
      | error e => exact h.keep (c := heldAll pool)
      | ok place =>
        refine ensures_request_iff.2 (Device.map_balanced.mono fun t' outcome h' => ?_)
        cases outcome with
        | error e =>
          have hlog : Balanced 0 0 [⟨.log (notice (.mapFailed e)), ()⟩] := rfl
          exact (h.trans (h'.trans hlog)).keep (c := heldAll pool)
        | ok m =>
          refine Attempt.ensures_pure_iff.2 ?_
          show Balanced (heldAll pool) (heldAll (pool.set id { b with
            surface := { b.surface with mapping := some m } })) ([] ++ (t ++ (t' ++ [])))
          rw [heldAll_eq, heldAll_eq, Pool.heldAll_of_gain hget (held_mapped hmapping),
            List.append_nil]
          exact (h.trans h').gain

theorem unmap_balanced :
    (unmap pool id).Ensures fun t r => Balanced (heldAll pool) (heldAll r.2) t := by
  rw [unmap_eq]
  exact Pool.unmapWith_balanced held_unmapped

theorem releaseMapping_balanced : (releaseMapping b).Ensures fun t _ =>
    Balanced (perhaps (b.surface.mapping.map .mapping)) 0 t :=
  Device.unmap_balanced

theorem releaseView_balanced : (releaseView b).Ensures fun t _ =>
    Balanced (perhaps (b.view.map fun v => .view v.handle)) 0 t := by
  unfold releaseView
  split
  · rename_i h
    rw [h]
    exact ensures_pure_iff.2 .nil
  · rename_i view h
    rw [h]
    refine ensures_bind_iff.2 (ensures_call_iff.2 fun answer => ensures_logFailure_iff.2 ?_)
    cases answer <;> rfl

theorem releasePrime_balanced : (releasePrime b).Ensures fun t _ =>
    Balanced (perhaps (b.surface.prime.map .prime)) 0 t := by
  unfold releasePrime
  split
  · rename_i h
    rw [h]
    exact ensures_pure_iff.2 .nil
  · rename_i fd h
    rw [h]
    exact ensures_call_iff.2 fun answer => rfl

/-- A buffer that is released gives back all that it holds. -/
theorem release_balanced : (release pool b).Ensures fun t _ => Balanced (held b) 0 t := by
  refine ensures_bind_iff.2 (releaseMapping_balanced.mono fun t₁ _ h₁ => ?_)
  refine ensures_bind_iff.2 (releaseView_balanced.mono fun t₂ _ h₂ => ?_)
  refine ensures_bind_iff.2 (releasePrime_balanced.mono fun t₃ _ h₃ => ?_)
  have hheld := (h₁.add h₂).add h₃
  refine ensures_bind_iff.2 (Device.ensures_ioctl_iff.2 (forall_except_iff.2 ⟨?_, ?_⟩))
  · intro answer
    have hclose : Balanced {.object b.surface.handle} 0
        [⟨.ioctl (.gemClose b.surface.handle), .ok answer⟩] := rfl
    refine ensures_bind_iff.2 (ensures_log_iff.2 (ensures_pure_iff.2 ?_))
    simpa [held] using hheld.add (hclose.trans .log)
  · intro e
    have hclose : Balanced {.object b.surface.handle} 0
        [⟨.ioctl (.gemClose b.surface.handle), .error e⟩] := rfl
    refine ensures_bind_iff.2 (ensures_log_iff.2 (ensures_pure_iff.2 ?_))
    simpa [held] using hheld.add (hclose.trans .log)

theorem destroy_balanced :
    (destroy pool id).Ensures fun t r => Balanced (heldAll pool) (heldAll r.2) t := by
  rw [destroy_eq]
  exact Pool.destroyWith_balanced releases.released fun _ _ => release_balanced

/-- A driver that ends gives back all that its buffers hold. -/
theorem teardown_balanced : (teardown pool).Ensures fun t _ => Balanced (heldAll pool) 0 t :=
  releases.balanced_of_teardown (fun _ _ => release_balanced) pool

/-! ## Kinds of calls -/

theorem idle_of_composes {x : Exchange} (h : x.call.composes ∨ x.call.isNotice) :
    x.acquired = 0 ∧ x.released = 0 := by
  obtain ⟨c, answer⟩ := x
  cases c with
  | log n => exact ⟨rfl, rfl⟩
  | engine request =>
    cases request with
    | check | fill | process => exact ⟨rfl, rfl⟩
    | _ => rcases h with h | h <;> cases h
  | _ => rcases h with h | h <;> cases h

/-- Exporting acquires prime descriptors only. -/
theorem isPrime_of_exports {x : Exchange} (h : x.call.exports) :
    (∀ r ∈ x.acquired, r.isPrime) ∧ x.released = 0 := by
  obtain ⟨c, answer⟩ := x
  cases c with
  | duplicate fd => exact ⟨fun r hr => absurd hr (Multiset.notMem_zero r), rfl⟩
  | ioctl request =>
    cases request with
    | primeHandleToFd handle flags =>
      refine ⟨fun r hr => ?_, rfl⟩
      cases answer with
      | error e => exact absurd hr (Multiset.notMem_zero r)
      | ok number =>
        rw [Exchange.acquired_export] at hr
        split at hr
        · exact absurd hr (Multiset.notMem_zero r)
        · rw [Multiset.mem_singleton.1 hr, Resource.isPrime_prime]
    | _ => cases h
  | _ => cases h

theorem not_isPrime_of_manages {x : Exchange} (h : x.call.manages) {r : Resource}
    (hr : r ∈ x.acquired) : r.isPrime = false := by
  cases r with
  | prime fd =>
    obtain ⟨handle, flags, hcall⟩ := Exchange.call_of_prime_acquired hr
    rw [hcall] at h
    cases h
  | _ => rfl

theorem not_isPrime_of_creates {x : Exchange} (h : x.call.creates) {r : Resource}
    (hr : r ∈ x.released) : r.isPrime = false := by
  cases r with
  | prime fd =>
    rw [Exchange.call_of_prime_released hr] at h
    cases h
  | _ => rfl

/-! ## Episodes -/

variable {e : Episode}

/-- What a creation acquires is what its buffer holds, or what it gives back
when it fails. -/
theorem creation_balanced (hop : e.op.isCreation) (h : Step perform pool e pool') :
    match e.created? with
    | some id => e.acquired = heldAt pool' id + released e.trace
    | none => pool' = pool ∧ e.acquired = released e.trace := by
  obtain ⟨op, trace, result⟩ := e
  cases op with
  | create desc placement =>
    have h := create_balanced _ _ h
    cases result <;> simpa [Gained, Balanced, Episode.created?, Episode.acquired] using h
  | importHandle handle size? desc pitch =>
    have h := importHandle_balanced _ _ h
    cases result <;> simpa [Gained, Balanced, Episode.created?, Episode.acquired] using h
  | importName name desc pitch =>
    have h := importName_balanced _ _ h
    cases result <;> simpa [Gained, Balanced, Episode.created?, Episode.acquired] using h
  | importPrime fd size? desc pitch =>
    have h := importPrime_balanced _ _ h
    cases result <;> simpa [Gained, Balanced, Episode.created?, Episode.acquired] using h
  | _ => cases hop

/-- What is held and acquired before an operation is held or given back
after it. -/
theorem perform_balanced (h : Step perform pool e pool')
    (fresh : e.created?.isSome → pool.get? pool.nextId = none) :
    heldAll pool + e.acquired = heldAll pool' + released e.trace := by
  by_cases hop : e.op.isCreation
  · have hbalanced := creation_balanced hop h
    have hchange := perform_change h
    cases hcreated : e.created? with
    | none =>
      rw [hcreated] at hbalanced
      rw [hbalanced.1, hbalanced.2]
    | some id =>
      rw [hcreated] at hbalanced hchange fresh
      cases hchange with
      | @added b _ =>
        have hat : heldAt (pool.add b) pool.nextId = held b := by
          simp [heldAt]
        have hbalanced : e.acquired = _ := hbalanced
        rw [hbalanced, heldAll_eq, heldAll_eq, Pool.heldAll_add (fresh rfl), hat, add_assoc]
  · obtain ⟨op, trace, result⟩ := e
    cases op with
    | create | importHandle | importName | importPrime => exact absurd rfl hop
    | flush =>
      obtain ⟨rfl, heq⟩ := runs_done_iff.1 h
      cases heq
      rfl
    | map id => exact map_balanced _ _ h
    | unmap id => exact unmap_balanced _ _ h
    | destroy id => exact destroy_balanced _ _ h
    | exportPrime id =>
      obtain rfl : pool' = pool := (run_of_observe h).2
      have hcalls := asks_observe exportPrime_asks _ _ h
      have hreleased : released trace = 0 :=
        released_eq_zero fun x hx => (isPrime_of_exports (hcalls x hx)).2
      have hacquired : (acquired trace).filter (¬ ·.isPrime) = 0 := by
        apply Multiset.filter_eq_nil.2
        intro r hr
        obtain ⟨x, hx, hr⟩ := mem_acquired.1 hr
        exact not_not.2 ((isPrime_of_exports (hcalls x hx)).1 r hr)
      simp only [Episode.acquired, hacquired, hreleased]
    | fillRect | checkBlit | blit | copy | rotate | flip =>
      obtain rfl : pool' = pool := (run_of_observe h).2
      have hcalls := accelerated_asks rfl _ _ h
      have hreleased : released trace = 0 :=
        released_eq_zero fun x hx => (idle_of_composes (hcalls x hx)).2
      have hacquired : acquired trace = 0 :=
        acquired_eq_zero fun x hx => (idle_of_composes (hcalls x hx)).1
      simp only [Episode.acquired, hacquired, hreleased]

/-- The prime descriptor of a buffer that has been created. -/
def primeOf (pool : State) (created : Option BufferId) : Multiset Resource :=
  perhaps (((created.bind pool.get?).bind (·.surface.prime)).map .prime)

theorem filter_isPrime_held :
    (held b).filter (·.isPrime) = perhaps (b.surface.prime.map .prime) := by
  simp only [held, Multiset.filter_add]
  cases b.surface.mapping <;> cases b.view <;> cases b.surface.prime <;>
    simp [Multiset.filter_singleton]

/-- The prime descriptors that an operation acquires are those of the buffer
that it creates. -/
theorem filter_isPrime_acquired (h : Step perform pool e pool') :
    e.acquired.filter (·.isPrime) = primeOf pool' e.created? := by
  by_cases hop : e.op.isCreation
  · have hbalanced := creation_balanced hop h
    have hcalls := creation_asks hop _ _ h
    have hreleased : (released e.trace).filter (·.isPrime) = 0 := by
      apply Multiset.filter_eq_nil.2
      intro r hr
      obtain ⟨x, hx, hr⟩ := mem_released.1 hr
      simp [not_isPrime_of_creates (hcalls x hx) hr]
    cases hcreated : e.created? with
    | none =>
      rw [hcreated] at hbalanced
      rw [hbalanced.2, hreleased]
      rfl
    | some id =>
      rw [hcreated] at hbalanced
      have hbalanced : e.acquired = _ := hbalanced
      rw [hbalanced, Multiset.filter_add, hreleased, add_zero, heldAt, primeOf, Option.bind_some]
      cases pool'.get? id with
      | none => rfl
      | some b => exact filter_isPrime_held
  · obtain ⟨op, trace, result⟩ := e
    have hmanages : (∀ x ∈ trace, x.call.manages) → (acquired trace).filter (·.isPrime) = 0 := by
      intro hcalls
      apply Multiset.filter_eq_nil.2
      intro r hr
      obtain ⟨x, hx, hr⟩ := mem_acquired.1 hr
      simp [not_isPrime_of_manages (hcalls x hx) hr]
    cases op with
    | create | importHandle | importName | importPrime => exact absurd rfl hop
    | flush =>
      obtain ⟨rfl, heq⟩ := runs_done_iff.1 h
      rfl
    | map id => exact hmanages fun x hx => Call.manages_of_maps (asks_commit map_asks _ _ h x hx)
    | unmap id => exact hmanages fun x hx => Call.manages_of_maps (unmap_asks _ _ h x hx)
    | destroy id => exact hmanages (destroy_asks _ _ h)
    | exportPrime id =>
      apply Multiset.filter_eq_nil.2
      intro r hr
      exact (Multiset.mem_filter.1 hr).2
    | fillRect | checkBlit | blit | copy | rotate | flip =>
      have hcalls := accelerated_asks rfl _ _ h
      have hacquired : acquired trace = 0 :=
        acquired_eq_zero fun x hx => (idle_of_composes (hcalls x hx)).1
      simp only [Episode.acquired, hacquired, Multiset.filter_zero]
      cases result <;> rfl

/-! ## Creations that stop -/

/-- A creation that stops has acquired an object or a descriptor. -/
theorem acquired_of_stops {op : Operation} {t : List Exchange} (stops : Stops pool op t) :
    ∃ r, r ∈ acquired t := by
  suffices h : ∃ x ∈ t, ∃ r, r ∈ x.acquired by
    obtain ⟨x, hx, r, hr⟩ := h
    exact ⟨r, mem_acquired.2 ⟨x, hx, hr⟩⟩
  obtain ⟨_, _, _, fd, t₁, t₂, granting, obtains, -, rfl⟩ := stops
  cases granting with
  | @create _ _ _ handle _ =>
    exact ⟨_, List.mem_cons_self .., .object handle, Multiset.mem_singleton_self _⟩
  | @importName _ _ _ _ object _ _ =>
    exact ⟨_, List.mem_cons_self .., .object object.handle, Multiset.mem_singleton_self _⟩
  | @importPrime fd' _ _ _ _ _ handle _ _ =>
    exact ⟨⟨.ioctl (.primeFdToHandle fd' 0), .ok handle⟩, by simp, .object handle,
      Multiset.mem_singleton_self _⟩
  | @importHandle handle _ _ _ _ _ =>
    cases obtains with
    | kept hprime => cases hprime
    | exported =>
      have hnumber : ¬ (fd.number : Int) < 0 := by omega
      refine ⟨⟨.ioctl (.primeHandleToFd handle primeExportFlags), .ok fd.number⟩, .tail _ (.head _),
        .prime fd, ?_⟩
      rw [Exchange.acquired_export, if_neg hnumber]
      exact Multiset.mem_singleton_self _

/-- It gives nothing back, since dropping a descriptor is not giving it back. -/
theorem released_of_stops {op : Operation} {t : List Exchange} (stops : Stops pool op t) :
    released t = 0 := by
  obtain ⟨_, _, _, _, t₁, t₂, granting, obtains, -, rfl⟩ := stops
  cases granting <;> cases obtains <;> rfl

/-! ## Lives -/

theorem ran_balanced {history : List Episode} (run : Ran perform ∅ history pool)
    (few : creations history ≤ BufferId.count) :
    (history.map (·.acquired)).sum = heldAll pool + released (callsOf history) :=
  Pool.balanced_of_ran perform_change perform_balanced run few

theorem new_balanced : new.Ensures fun t _ => acquired t = 0 ∧ released t = 0 := by
  refine ensures_bind_iff.2 (ensures_call_iff.2 fun info => ?_)
  cases info with
  | none => exact ensures_pure_iff.2 ⟨rfl, rfl⟩
  | some text =>
    exact ensures_bind_iff.2 (ensures_log_iff.2 (ensures_pure_iff.2 ⟨rfl, rfl⟩))

theorem Reached.opening_balanced {opening : List Exchange} {history : List Episode}
    (reached : Reached opening history pool) : acquired opening = 0 ∧ released opening = 0 := by
  obtain ⟨start, hnew, -⟩ := reached
  exact new_balanced _ _ hnew

/-- In a whole life each mapping, each handle of the engine, each prime
descriptor of a buffer and each handle of an object is given back as often
as it was acquired.  The descriptors that count are those that have become
the descriptor of a buffer.

If an operation stops, then the teardown still gives back what the buffers hold.
What the operation has acquired is something, and it is never given back. -/
theorem resources_balanced {opening closing : List Exchange} {history : List Episode}
    (reached : Reached opening history pool) (few : creations history ≤ BufferId.count) :
    ((teardown pool).Runs closing () →
      acquired opening + (history.map (·.acquired)).sum + acquired closing =
        released (opening ++ callsOf history ++ closing)) ∧
    (∀ before e after p p', history = before ++ e :: after → Reached opening before p →
      Step perform p e p' → e.acquired.filter (·.isPrime) = primeOf p' e.created?) ∧
    ∀ op t cause, (perform pool op).Aborts t cause →
      (teardown pool.skip).Runs closing () → (∃ r, r ∈ acquired t) ∧
        acquired opening + (history.map (·.acquired)).sum + acquired t + acquired closing =
          released (opening ++ callsOf history ++ t ++ closing) + acquired t := by
  obtain ⟨hacquired, hreleased⟩ := reached.opening_balanced
  have hran := ran_balanced reached.ran few
  have htorn : ∀ p : State, heldAll p = heldAll pool → (teardown p).Runs closing () →
      acquired opening + (history.map (·.acquired)).sum + acquired closing =
        released (opening ++ callsOf history ++ closing) := by
    intro p hheld torn
    have hclosing : heldAll p + acquired closing = 0 + released closing :=
      teardown_balanced _ _ torn
    calc acquired opening + (history.map (·.acquired)).sum + acquired closing
        = heldAll p + released (callsOf history) + acquired closing := by
          rw [hacquired, zero_add, hran, hheld]
      _ = heldAll p + acquired closing + released (callsOf history) := by abel
      _ = released (opening ++ callsOf history ++ closing) := by
          rw [hclosing, released_append, released_append, hreleased]
          abel
  refine ⟨htorn pool rfl, fun before e after p p' _ _ hstep => filter_isPrime_acquired hstep, ?_⟩
  intro op t cause aborts torn
  have stops := perform_aborts_iff.1 aborts
  refine ⟨acquired_of_stops stops, ?_⟩
  have hlife := htorn pool.skip rfl torn
  simp only [released_append, released_of_stops stops] at hlife ⊢
  calc acquired opening + (history.map (·.acquired)).sum + acquired t + acquired closing
      = acquired opening + (history.map (·.acquired)).sum + acquired closing + acquired t := by abel
    _ = released opening + released (callsOf history) + 0 + released closing + acquired t := by
        rw [hlife]
        abel

/-- A surface with one header row. -/
def sampleDesc : SurfaceDesc := ⟨.xrgb8888, 16, 8, 4⟩

/-- Two buffers, of which one is mapped and left to the teardown. -/
def sampleOps : List Operation :=
  [.create sampleDesc .general, .importName 3 sampleDesc 32, .map .first,
    .destroy BufferId.first.next]

theorem resources_balanced_sample :
    ∃ opening history pool closing,
      playLife granted sampleOps = some (opening, history, pool, closing) ∧
      creations history = 2 ∧
      acquired opening + (history.map (·.acquired)).sum + acquired closing =
        released (opening ++ callsOf history ++ closing) := by
  have hplay : (playLife granted sampleOps).map (creations ·.2.1) = some 2 := rfl
  obtain ⟨⟨opening, history, pool, closing⟩, hlife, htwo⟩ := Option.map_eq_some_iff.1 hplay
  have htwo : creations history = 2 := htwo
  refine ⟨opening, history, pool, closing, hlife, htwo, ?_⟩
  obtain ⟨reached, torn⟩ := life_of_playLife hlife
  exact (resources_balanced reached (by rw [htwo]; decide)).1 torn

/-- A new driver allocates an object and exports it, and stops.  Its teardown gives back
neither the object nor the descriptor. -/
theorem stopped_creation_leaks :
    ∃ opening t closing, Reached opening [] ∅ ∧
      (perform ∅ (.create ⟨.xrgb8888, 4, 1, 4294967295⟩ .general)).Aborts t .addOverflow ∧
      (teardown (∅ : State).skip).Runs closing () ∧
      acquired t = {.object 1, .prime ⟨1⟩} ∧ released (opening ++ t ++ closing) = 0 := by
  have hlife : playLife granted [] = some ([⟨.engine .describe, none⟩], [], ∅, []) := rfl
  have hclose : (teardown (∅ : State).skip).play granted = some ([], ()) := rfl
  have computed : Geometry.compute .rockchip ⟨.xrgb8888, 4, 1, 4294967295⟩ =
      .ok ⟨⟨32, 4, some 0x2900⟩, 4, 1, 17179869184, 4⟩ := rfl
  have stops : Stops ∅ (.create ⟨.xrgb8888, 4, 1, 4294967295⟩ .general) _ :=
    ⟨_, _, { handle := 1, flags := placementFlags .general }, ⟨1⟩, _, _, .create computed,
      .exported rfl, by decide, rfl⟩
  exact ⟨_, _, _, (life_of_playLife hlife).1, perform_aborts_iff.2 stops, runs_of_play hclose,
    rfl, rfl⟩

end Rockchip

end DrmSurface
