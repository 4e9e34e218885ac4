import DrmSurface.Proofs.Held
import DrmSurface.Proofs.Vmwgfx.Refusal
import Mathlib.Data.Multiset.Count

/-!
# The vmwgfx driver gives back what it acquires

Every object that the driver allocates it unreferences, and every mapping that
it is granted it gives back, once each, over a life that ends with a teardown.
A buffer that is released while it is mapped loses its mapping and then at once
its object.

There are five groups.

* The calls of the driver: which handles they allocate and unreference, and
  which mappings they acquire and give back.
* `held`, what a buffer holds, and the equation for each operation.
* `releaseCalls`, the calls that release one buffer.
* The count of mappings, which follows what is mapped.
* `objects_and_mappings_given_back`, for all histories within the number of ids.
-/

namespace DrmSurface

/-! ## Calls -/

/-- A call that the vmwgfx driver makes. -/
def Call.isVmwgfx : Call → Bool
  | .ioctl (.vmwAllocDmabuf ..) | .ioctl (.vmwUnrefDmabuf _) | .map .. | .unmap _ | .close _
  | .log _ => true
  | _ => false

namespace Prog.Exchange

/-- The handle of the object that a call has allocated. -/
def allocated? : Exchange → Option UInt32
  | ⟨.ioctl (.vmwAllocDmabuf ..), .ok reply⟩ => some reply.handle
  | _ => none

/-- The handle whose object a call unreferences, whatever is answered. -/
def unreferenced? : Exchange → Option UInt32
  | ⟨.ioctl (.vmwUnrefDmabuf handle), _⟩ => some handle
  | _ => none

/-- The mapping that a call has been granted. -/
def mapped? : Exchange → Option Mapping
  | ⟨.map _ length _, .ok start⟩ => some ⟨start, length⟩
  | _ => none

/-- The mapping that a call gives back, whatever is answered. -/
def unmapped? : Exchange → Option Mapping
  | ⟨.unmap m, _⟩ => some m
  | _ => none

end Prog.Exchange

open Prog (Exchange)

/-- Objects and mappings with the same sum are the same, up to their order. -/
theorem Resource.perm_of_sum_eq {objects objects' : List UInt32} {mappings mappings' : List Mapping}
    (h : (objects.map object + mappings.map mapping : Multiset Resource) =
      objects'.map object + mappings'.map mapping) :
    objects.Perm objects' ∧ mappings.Perm mappings' := by
  rw [Multiset.coe_add, Multiset.coe_add, Multiset.coe_eq_coe] at h
  constructor
  · have hobjects := h.filterMap fun r => match r with
      | object handle => some handle
      | _ => none
    simpa [List.filterMap_append, List.filterMap_map, Function.comp_def] using hobjects
  · have hmappings := h.filterMap fun r => match r with
      | mapping m => some m
      | _ => none
    simpa [List.filterMap_append, List.filterMap_map, Function.comp_def] using hmappings

theorem Prog.Exchange.resources_of_isVmwgfx {x : Exchange} (h : x.call.isVmwgfx) :
    x.acquired = x.allocated?.toList.map Resource.object +
        x.mapped?.toList.map Resource.mapping ∧
      x.released = x.unreferenced?.toList.map Resource.object +
        x.unmapped?.toList.map Resource.mapping := by
  obtain ⟨c, answer⟩ := x
  cases c with
  | ioctl request =>
    cases request with
    | vmwAllocDmabuf | vmwUnrefDmabuf => cases answer <;> exact ⟨rfl, rfl⟩
    | _ => cases h
  | map => cases answer <;> exact ⟨rfl, rfl⟩
  | unmap | close | log => exact ⟨rfl, rfl⟩
  | _ => cases h

/-- What calls of the driver acquire and give back are objects and mappings. -/
theorem resources_of_isVmwgfx {trace : List Exchange} (h : ∀ x ∈ trace, x.call.isVmwgfx) :
    acquired trace = (trace.filterMap (·.allocated?)).map Resource.object +
        (trace.filterMap (·.mapped?)).map Resource.mapping ∧
      released trace = (trace.filterMap (·.unreferenced?)).map Resource.object +
        (trace.filterMap (·.unmapped?)).map Resource.mapping := by
  have hcons : ∀ {α β : Type} (f : α → Option β) (x : α) (t : List α),
      (x :: t).filterMap f = (f x).toList ++ t.filterMap f := by
    intro α β f x t
    cases hf : f x <;> simp [hf]
  induction trace with
  | nil => exact ⟨rfl, rfl⟩
  | cons x t ih =>
    obtain ⟨hx, ht⟩ := List.forall_mem_cons.1 h
    obtain ⟨hacquired, hreleased⟩ := Exchange.resources_of_isVmwgfx hx
    obtain ⟨ihacquired, ihreleased⟩ := ih ht
    simp only [acquired_cons, released_cons, hacquired, hreleased, ihacquired, ihreleased, hcons,
      List.map_append, ← Multiset.coe_add]
    exact ⟨by abel, by abel⟩

/-- If calls of the driver have acquired what they have given back and what is
held, then so it is with the objects and with the mappings. -/
theorem perm_of_isVmwgfx {trace : List Exchange} (h : ∀ x ∈ trace, x.call.isVmwgfx)
    {objects : List UInt32} {mappings : List Mapping}
    (hbalanced : acquired trace =
      (objects.map Resource.object + mappings.map Resource.mapping : Multiset Resource) +
        released trace) :
    (trace.filterMap (·.allocated?)).Perm (objects ++ trace.filterMap (·.unreferenced?)) ∧
      (trace.filterMap (·.mapped?)).Perm (mappings ++ trace.filterMap (·.unmapped?)) := by
  obtain ⟨hacquired, hreleased⟩ := resources_of_isVmwgfx h
  rw [hacquired, hreleased] at hbalanced
  apply Resource.perm_of_sum_eq
  rw [hbalanced]
  simp only [List.map_append, ← Multiset.coe_add]
  abel

namespace Vmwgfx

open Prog
open Attempt hiding asks_pure ensures_bind_iff ensures_pure_iff
open Resource (perhaps)

/-! ## What is held -/

/-- What a buffer holds. -/
def held (b : Buffer) : Multiset Resource :=
  perhaps (b.surface.mapping.map .mapping) + {.object b.surface.handle}

variable {pageSize : Nat} {pool pool' : State} {id : BufferId} {b : Buffer} {desc : SurfaceDesc}
  {placement : Placement}

theorem held_mapped {m : Mapping} {n : UInt32} (hmapping : b.surface.mapping = none) :
    held (b.withMapping (some m) n) = held b + {.mapping m} := by
  simp only [held, Buffer.withMapping, hmapping, Option.map_some, Option.map_none,
    Resource.perhaps_some, Resource.perhaps_none]
  abel

theorem held_unmapped {m : Mapping} {n : UInt32} (hmapping : b.surface.mapping = some m) :
    held b = held (b.withMapping none n) + {.mapping m} := by
  simp only [held, Buffer.withMapping, hmapping, Option.map_some, Option.map_none,
    Resource.perhaps_some, Resource.perhaps_none]
  abel

/-- What a pool holds are the objects and the mappings of its buffers. -/
theorem heldAll_eq_resources (pool : State) :
    pool.heldAll held = (pool.buffers.values.map (·.surface.handle)).map Resource.object +
      (pool.buffers.values.filterMap (·.surface.mapping)).map Resource.mapping := by
  rw [Pool.heldAll]
  induction pool.buffers.values with
  | nil => rfl
  | cons b bs ih =>
    rw [List.map_cons, List.sum_cons, ih, held]
    cases hmapping : b.surface.mapping with
    | none => simp [hmapping, ← Multiset.cons_coe]
    | some m => simp [hmapping, ← Multiset.cons_coe]

/-! ## Operations -/

/-- An allocation acquires the object that it is granted, and a request that is
to be made again acquires nothing. -/
theorem alloc_balanced {size : UInt32} : (Device.vmwAllocDmabuf size).Ensures fun t outcome =>
    match outcome with
    | .ok reply => Balanced 0 {.object reply.handle} t
    | .error _ => Balanced 0 0 t := by
  refine Device.ensures_vmwAllocDmabuf.mono fun t outcome h => ?_
  obtain ⟨n, rfl⟩ := h
  have hrestarts : Balanced 0 0
      (List.replicate n ⟨.ioctl (.vmwAllocDmabuf size 0), .error .restart⟩) := by
    induction n with
    | zero => exact .nil
    | succ n ih =>
      have hfirst : Balanced 0 0 [⟨.ioctl (.vmwAllocDmabuf size 0), .error .restart⟩] := rfl
      exact hfirst.trans ih
  cases outcome with
  | ok reply => exact hrestarts.trans rfl
  | error e => exact hrestarts.trans rfl

/-- A creation adds a buffer that holds what was acquired, or it acquires
nothing. -/
theorem create_balanced : (commit pool (create pool desc placement)).Ensures fun t r =>
    match r with
    | (.ok _, pool') => ∃ b, pool' = pool.add b ∧ Balanced 0 (held b) t
    | (.error _, pool') => pool' = pool ∧ Balanced 0 0 t := by
  rw [ensures_commit_iff, create, ensures_refuse_iff]
  cases Geometry.compute .generic desc with
  | error e => exact ⟨rfl, rfl⟩
  | ok g =>
    dsimp only
    split
    · exact ensures_throw_iff.2 ⟨rfl, rfl⟩
    · refine ensures_request_iff.2 (alloc_balanced.mono fun t outcome h => ?_)
      cases outcome with
      | ok reply =>
        refine Attempt.ensures_bind_iff.2 (ensures_lift_iff.2 (ensures_log_iff.2 ?_))
        refine Attempt.ensures_pure_iff.2 ⟨_, rfl, ?_⟩
        simpa [held, Surface.ofDesc] using h.trans .log
      | error e => exact ⟨rfl, h.trans .log⟩

theorem map_balanced : (commit pool (map pageSize pool id)).Ensures fun t r =>
    Balanced (pool.heldAll held) (r.2.heldAll held) t := by
  rw [ensures_commit_iff, map, Attempt.ensures_bind_iff, ensures_ofOption_iff]
  cases hget : pool.get? id with
  | none => exact .nil
  | some b =>
    dsimp only
    split
    · exact ensures_throw_iff.2 .nil
    · rename_i hmapped
      have hmapping : b.surface.mapping = none := by
        simpa [Surface.isMapped] using hmapped
      split
      · refine Attempt.ensures_bind_iff.2 (ensures_lift_iff.2 (ensures_log_iff.2 ?_))
        exact ensures_throw_iff.2 .log
      · refine ensures_request_iff.2 (Device.map_balanced.mono fun t outcome h => ?_)
        cases outcome with
        | error e => exact (h.trans .log).keep (c := pool.heldAll held)
        | ok m =>
          refine Attempt.ensures_bind_iff.2 (ensures_lift_iff.2 (ensures_log_iff.2 ?_))
          refine Attempt.ensures_pure_iff.2 ?_
          show Balanced _
            ((pool.set id (b.withMapping (some m) (countUp b.mapCount))).heldAll held) _
          rw [Pool.heldAll_of_gain hget (held_mapped hmapping)]
          exact (h.trans .log).gain

theorem unmap_balanced : (unmap pool id).Ensures fun t r =>
    Balanced (pool.heldAll held) (r.2.heldAll held) t := by
  rw [unmap_eq]
  exact Pool.unmapWith_balanced held_unmapped

/-- A buffer that is released gives back all that it holds. -/
theorem release_balanced (pool : State) (b : Buffer) :
    (release pool b).Ensures fun t _ => Balanced (held b) 0 t := by
  have hmapping : (releaseMapping b).Ensures fun t _ =>
      Balanced (perhaps (b.surface.mapping.map .mapping)) 0 t := Device.unmap_balanced
  refine ensures_bind_iff.2 (hmapping.mono fun t _ h => ?_)
  have hunref : ∀ answer, Balanced {.object b.surface.handle} 0
      [⟨.ioctl (.vmwUnrefDmabuf b.surface.handle), answer⟩] := by
    intro answer
    cases answer <;> rfl
  refine ensures_bind_iff.2 (Device.ensures_ioctl_iff.2 (forall_except_iff.2 ⟨?_, ?_⟩))
  · intro answer
    refine ensures_bind_iff.2 (ensures_log_iff.2 (ensures_pure_iff.2 ?_))
    exact h.add ((hunref _).trans .log)
  · intro e
    refine ensures_bind_iff.2 (ensures_log_iff.2 (ensures_pure_iff.2 ?_))
    exact h.add ((hunref _).trans .log)

theorem destroy_balanced : (destroy pool id).Ensures fun t r =>
    Balanced (pool.heldAll held) (r.2.heldAll held) t := by
  rw [destroy_eq]
  exact Pool.destroyWith_balanced releases.released release_balanced

/-- A driver that ends gives back all that its buffers hold. -/
theorem teardown_balanced : (teardown pool).Ensures fun t _ => Balanced (pool.heldAll held) 0 t :=
  releases.balanced_of_teardown release_balanced pool

/-- What is held and acquired before an operation is held or given back
after it. -/
theorem perform_balanced {e : Episode} (h : Step (perform pageSize) pool e pool')
    (fresh : e.created?.isSome → pool.get? pool.nextId = none) :
    Balanced (pool.heldAll held) (pool'.heldAll held) e.trace := by
  obtain ⟨op, trace, result⟩ := e
  cases op with
  | create desc placement =>
    have hbalanced := create_balanced _ _ h
    cases result with
    | ok id =>
      obtain ⟨b, rfl, hb⟩ := hbalanced
      rw [Pool.heldAll_add (fresh rfl)]
      exact hb.gain
    | error e =>
      obtain ⟨rfl, hnothing⟩ := hbalanced
      exact hnothing.keep
  | map id => exact map_balanced _ _ h
  | unmap id => exact unmap_balanced _ _ h
  | destroy id => exact destroy_balanced _ _ h
  | importPrime fd size? desc pitch =>
    obtain rfl := importPrime_calls _ _ h
    obtain ⟨_, _, _, -, -, hrest⟩ := runs_bind_iff.1 h
    obtain ⟨-, heq⟩ := runs_done_iff.1 hrest
    cases heq
    rfl
  | flush | importHandle | importName | exportPrime | fillRect | checkBlit | blit | copy | rotate
  | flip =>
    obtain ⟨rfl, heq⟩ := runs_done_iff.1 h
    cases heq
    exact .nil

theorem ran_balanced {history : List Episode} (run : Ran (perform pageSize) ∅ history pool)
    (few : creations history ≤ BufferId.count) :
    acquired (callsOf history) = pool.heldAll held + released (callsOf history) := by
  rw [acquired_callsOf]
  exact Pool.balanced_of_ran (fun h => (perform_effect h).turnover.change) perform_balanced run few

/-! ## Which calls are made -/

theorem create_asks : Asks (·.isVmwgfx) (create pool desc placement).run := by
  refine asks_bind (asks_orRefuse fun _ => rfl) fun g => ?_
  dsimp only
  split
  · exact asks_throw
  · refine asks_bind (asks_lift (Device.ensures_vmwAllocDmabuf.mono fun t outcome h x hx => ?_))
      fun outcome => asks_bind (asks_orRefuse fun _ => rfl) fun reply =>
        asks_bind (asks_lift (asks_log fun _ => rfl)) fun _ => Attempt.asks_pure
    obtain ⟨n, rfl⟩ := h
    simp only [List.mem_append, List.mem_replicate, List.mem_singleton] at hx
    rcases hx with ⟨-, rfl⟩ | rfl <;> rfl

theorem map_asks : Asks (·.isVmwgfx) (map pageSize pool id).run := by
  refine asks_bind asks_ofOption fun b => ?_
  split
  · exact asks_throw
  · split
    · exact asks_bind (asks_lift (asks_log fun _ => rfl)) fun _ => asks_throw
    · refine asks_bind (asks_lift (Device.map_asks rfl)) fun outcome => ?_
      exact asks_bind (asks_orRefuse fun _ => rfl) fun m =>
        asks_bind (asks_lift (asks_log fun _ => rfl)) fun _ => Attempt.asks_pure

theorem releaseMapping_asks : Asks (·.isVmwgfx) (releaseMapping b) := by
  unfold releaseMapping
  split
  · exact asks_pure
  · exact Asks.bind (asks_call rfl) fun _ => asks_logFailure fun _ => rfl

theorem release_asks (pool : State) (b : Buffer) : Asks (·.isVmwgfx) (release pool b) := by
  refine releaseMapping_asks.bind fun _ => Asks.bind (asks_call rfl) fun answer => ?_
  cases answer <;> exact Asks.bind (asks_log fun _ => rfl) fun _ => asks_pure

theorem perform_asks (op : Operation) : Asks (·.isVmwgfx) (perform pageSize pool op) := by
  cases op with
  | create desc placement => exact asks_commit create_asks
  | map id => exact asks_commit map_asks
  | unmap id =>
    show Asks _ (unmap pool id)
    rw [unmap_eq]
    exact Pool.unmapWith_asks (fun _ => rfl) fun _ => rfl
  | destroy id =>
    show Asks _ (destroy pool id)
    rw [destroy_eq]
    exact Pool.destroyWith_asks release_asks
  | importPrime => exact Asks.bind (asks_call rfl) fun _ => asks_pure
  | flush | importHandle | importName | exportPrime | fillRect | checkBlit | blit | copy | rotate
  | flip => exact asks_pure

theorem ran_asks {history : List Episode} (run : Ran (perform pageSize) ∅ history pool) :
    ∀ x ∈ callsOf history, x.call.isVmwgfx := by
  induction run with
  | start => simp
  | step _ now ih =>
    intro x hx
    rw [callsOf_append, callsOf_singleton, List.mem_append] at hx
    rcases hx with hx | hx
    · exact ih x hx
    · exact perform_asks _ _ _ now x hx

theorem teardown_asks : Asks (·.isVmwgfx) (teardown pool) := by
  have h : Asks (·.isVmwgfx) (releaseAll pool.emptied pool.buffers.values) :=
    releases.releaseAll_asks release_asks _ _
  exact ensures_reported (Ensures.mono h fun _ _ ht => ⟨ht, List.forall_mem_cons.2 ⟨rfl, ht⟩⟩)

/-! ## Release -/

/-- The calls that release a buffer. -/
def releaseCalls (b : Buffer) : List Call :=
  (b.surface.mapping.map .unmap).toList ++ [.ioctl (.vmwUnrefDmabuf b.surface.handle)]

theorem releaseMapping_calls :
    (releaseMapping b).Ensures fun t _ =>
      deviceCalls t = (b.surface.mapping.map .unmap).toList := by
  unfold releaseMapping
  split
  · rename_i h
    rw [h]
    exact ensures_pure_iff.2 rfl
  · rename_i m h
    rw [h]
    refine ensures_bind_iff.2 (Device.ensures_unmap_iff.2 fun answer => ?_)
    refine ensures_logFailure_iff.2 ?_
    cases answer <;> rfl

theorem release_calls (pool : State) (b : Buffer) :
    (release pool b).Ensures fun t _ => deviceCalls t = releaseCalls b := by
  refine ensures_bind_iff.2 (releaseMapping_calls.mono fun t _ h => ?_)
  refine ensures_bind_iff.2 (Device.ensures_ioctl_iff.2 (forall_except_iff.2 ⟨?_, ?_⟩))
  · intro answer
    refine ensures_bind_iff.2 (ensures_log_iff.2 (ensures_pure_iff.2 ?_))
    rw [deviceCalls_append, h]
    rfl
  · intro e
    refine ensures_bind_iff.2 (ensures_log_iff.2 (ensures_pure_iff.2 ?_))
    rw [deviceCalls_append, h]
    rfl

theorem destroy_calls (found : pool.get? id = some b) :
    (destroy pool id).Ensures fun t r => r.1 = .ok () ∧ deviceCalls t = releaseCalls b := by
  rw [destroy_eq]
  exact Pool.destroyWith_of_found found (release_calls _ b)

theorem releaseAll_calls (pool : State) (bs : List Buffer) :
    (releaseAll pool bs).Ensures fun t _ => deviceCalls t = bs.flatMap releaseCalls := by
  induction bs generalizing pool with
  | nil => exact ensures_pure_iff.2 rfl
  | cons b bs ih =>
    refine ensures_bind_iff.2 ((release_calls pool b).mono fun t pool' hfirst => ?_)
    refine (ih pool').mono fun t' _ hrest => ?_
    rw [deviceCalls_append, hfirst, hrest, List.flatMap_cons]

/-- A teardown releases the buffers one after another, in the order of their
ids. -/
theorem teardown_calls : (teardown pool).Ensures fun t _ =>
    deviceCalls t = pool.buffers.values.flatMap releaseCalls :=
  ensures_reported ((releaseAll_calls _ _).mono fun _ _ h => ⟨h, h⟩)

/-! ## The count of mappings -/

/-- Mapping a buffer counts its mappings up by one. -/
theorem mapCount_of_map {t : List Exchange} {place : Address} (tallied : Tallied b)
    (found : pool.get? id = some b)
    (h : Step (perform pageSize) pool ⟨.map id, t, .ok place⟩ pool') :
    ∃ b', pool'.get? id = some b' ∧ b'.mapCount.toNat = b.mapCount.toNat + 1 := by
  obtain ⟨b₀, b', m, found', hmapped, -, rfl⟩ := (perform_effect h).of_map
  cases found.symm.trans found'
  have hcount : b.mapCount = 0 := by
    simpa [Tallied, Surface.isMapped, hmapped.mapping_eq] using tallied
  refine ⟨b', by simp, ?_⟩
  rw [hmapped.result_eq, Buffer.withMapping, hcount]
  exact (by decide : (countUp 0).toNat = (0 : UInt32).toNat + 1)

/-- Unmapping a mapped buffer counts its mappings down by one, whatever the device
answers. -/
theorem mapCount_of_unmap {t : List Exchange} {r : Except DriverError Unit} (tallied : Tallied b)
    (found : pool.get? id = some b) (mapped : b.surface.isMapped)
    (h : Step (perform pageSize) pool ⟨.unmap id, t, r⟩ pool') :
    ∃ b', pool'.get? id = some b' ∧ b'.mapCount.toNat + 1 = b.mapCount.toNat := by
  obtain ⟨m, hm⟩ := Option.isSome_iff_exists.1 mapped
  have hcount : b.mapCount = 1 := by
    simpa [Tallied, mapped] using tallied
  have h : (unmap pool id).Runs t (r, pool') := h
  rw [unmap_eq] at h
  obtain ⟨hpool, -, -⟩ := Pool.unmapWith_of_some found hm _ _ h
  refine ⟨b.withMapping none (countDown b.mapCount), ?_, ?_⟩
  · rw [show pool' = _ from hpool, Pool.get?_set, if_pos rfl]
  · rw [Buffer.withMapping, hcount]
    exact (by decide : (countDown 1).toNat + 1 = (1 : UInt32).toNat)

/-! ## Lives -/

/-- The count of mappings of a buffer is one while it is mapped and otherwise
zero, and it goes up and down by one exactly.  The objects that were allocated
are those that were unreferenced and those of the buffers that are there, and
so it is with the mappings.  A buffer that is destroyed, or left to the
teardown, loses first its mapping, if it has one, and then at once its object,
so that at the end every object and every mapping has been given back as often
as it was acquired. -/
theorem objects_and_mappings_given_back {history : List Episode}
    (run : Ran (perform pageSize) ∅ history pool)
    (few : creations history ≤ BufferId.count) :
    (∀ id b, pool.get? id = some b →
      b.mapCount = (if b.surface.isMapped then 1 else 0) ∧
      (∀ t place pool', Step (perform pageSize) pool ⟨.map id, t, .ok place⟩ pool' →
        ∃ b', pool'.get? id = some b' ∧ b'.mapCount.toNat = b.mapCount.toNat + 1) ∧
      (∀ t r pool', b.surface.isMapped → Step (perform pageSize) pool ⟨.unmap id, t, r⟩ pool' →
        ∃ b', pool'.get? id = some b' ∧ b'.mapCount.toNat + 1 = b.mapCount.toNat) ∧
      ∀ t r pool', Step (perform pageSize) pool ⟨.destroy id, t, r⟩ pool' →
        r = .ok () ∧ deviceCalls t = releaseCalls b) ∧
    ((callsOf history).filterMap (·.allocated?)).Perm
      (pool.buffers.values.map (·.surface.handle) ++
        (callsOf history).filterMap (·.unreferenced?)) ∧
    ((callsOf history).filterMap (·.mapped?)).Perm
      (pool.buffers.values.filterMap (·.surface.mapping) ++
        (callsOf history).filterMap (·.unmapped?)) ∧
    ∀ closing, (teardown pool).Runs closing () →
      deviceCalls closing = pool.buffers.values.flatMap releaseCalls ∧
      ((callsOf history ++ closing).filterMap (·.allocated?)).Perm
        ((callsOf history ++ closing).filterMap (·.unreferenced?)) ∧
      ((callsOf history ++ closing).filterMap (·.mapped?)).Perm
        ((callsOf history ++ closing).filterMap (·.unmapped?)) := by
  refine ⟨fun id b hb => ?_, ?_⟩
  · have tallied := tallied_of_ran run hb
    exact ⟨tallied, fun _ _ _ => mapCount_of_map tallied hb,
      fun _ _ _ => mapCount_of_unmap tallied hb, fun _ _ _ => destroy_calls hb _ _⟩
  · have hran := ran_balanced run few
    have hcalls := ran_asks run
    obtain ⟨hobjects, hmappings⟩ :=
      perm_of_isVmwgfx hcalls (heldAll_eq_resources pool ▸ hran)
    refine ⟨hobjects, hmappings, fun closing torn => ⟨teardown_calls _ _ torn, ?_⟩⟩
    -- The teardown gives back what is still held, so that nothing is held in the end.
    have hlife :
        acquired (callsOf history ++ closing) = 0 + released (callsOf history ++ closing) := by
      have htorn : pool.heldAll held + acquired closing = 0 + released closing :=
        teardown_balanced _ _ torn
      calc acquired (callsOf history ++ closing)
          = pool.heldAll held + acquired closing + released (callsOf history) := by
            rw [acquired_append, hran]
            abel
        _ = 0 + released (callsOf history ++ closing) := by
            rw [htorn, released_append]
            abel
    have hkind : ∀ x ∈ callsOf history ++ closing, x.call.isVmwgfx := by
      intro x hx
      rcases List.mem_append.1 hx with hx | hx
      · exact hcalls x hx
      · exact teardown_asks _ _ torn x hx
    exact @perm_of_isVmwgfx _ hkind [] [] hlife

/-- A device that takes nothing back. -/
def takesNothingBack : (c : Call) → c.Answer
  | .unmap _ => .error .invalidArgument
  | .ioctl (.vmwUnrefDmabuf _) => .error .invalidArgument
  | c => granted c

/-- A buffer that is mapped twice and left mapped, and another one that is destroyed
while it is mapped. -/
theorem objects_and_mappings_given_back_sample :
    ∃ history pool closing,
      playAll (perform 4096) takesNothingBack ∅ [.create ⟨.xrgb8888, 16, 8, 4⟩ .general,
        .create ⟨.rgb565, 0, 8, 4⟩ .general, .map .first, .unmap .first, .map .first,
        .map BufferId.first.next, .destroy BufferId.first.next] = some (history, pool) ∧
      (teardown pool).play takesNothingBack = some (closing, ()) ∧
      creations history = 2 ∧
      deviceCalls closing = pool.buffers.values.flatMap releaseCalls ∧
      pool.buffers.values.flatMap releaseCalls =
        [.unmap ⟨⟨4096⟩, 160⟩, .ioctl (.vmwUnrefDmabuf 160)] ∧
      ((callsOf history ++ closing).filterMap (·.allocated?)).Perm
        ((callsOf history ++ closing).filterMap (·.unreferenced?)) ∧
      ((callsOf history ++ closing).filterMap (·.mapped?)).Perm
        ((callsOf history ++ closing).filterMap (·.unmapped?)) := by
  have hplay : (playAll (perform 4096) takesNothingBack ∅ [.create ⟨.xrgb8888, 16, 8, 4⟩ .general,
      .create ⟨.rgb565, 0, 8, 4⟩ .general, .map .first, .unmap .first, .map .first,
      .map BufferId.first.next, .destroy BufferId.first.next]).bind (fun r =>
        ((teardown r.2).play takesNothingBack).map fun closing =>
          (creations r.1, r.2.buffers.values.flatMap releaseCalls)) =
        some (2, [.unmap ⟨⟨4096⟩, 160⟩, .ioctl (.vmwUnrefDmabuf 160)]) := rfl
  obtain ⟨⟨history, pool⟩, hops, hplay⟩ := Option.bind_eq_some_iff.1 hplay
  obtain ⟨⟨closing, ⟨⟩⟩, hclosing, heq⟩ := Option.map_eq_some_iff.1 hplay
  obtain ⟨htwo, hrelease⟩ := Prod.mk.inj heq
  have htwo : creations history = 2 := htwo
  obtain ⟨-, -, -, hlife⟩ :=
    objects_and_mappings_given_back (ran_of_playAll hops) (by rw [htwo]; decide)
  obtain ⟨hcalls, hobjects, hmappings⟩ := hlife closing (runs_of_play hclosing)
  exact ⟨history, pool, closing, hops, hclosing, htwo, hcalls, hrelease, hobjects, hmappings⟩

end Vmwgfx

end DrmSurface
