import DrmSurface.Proofs.Course
import DrmSurface.Proofs.Rockchip.Balance
import DrmSurface.Proofs.Vmwgfx.Balance

/-!
# A probe leaves nothing behind

When a probe is over, its driver has the buffers that it had before, and what the probe
has acquired on the way has been given back, whatever the device has answered.

There are three groups.

* `Pool.Guest`, a pool with one more buffer than another one.  It stays so while
  that buffer is tried out, and the pools are the same again when it is gone.
* `Pool.Restored`, what a probe does to a pool.
* `Driver.probe_leaves_nothing_behind`, for all histories that have left an id.
-/

namespace DrmSurface

open Prog

/-! ## Guests -/

namespace Pool

variable {β : Type} {New : BufferId → β → Prop} {Mapped Unmapped : β → Mapping → β → Prop}
  {table : Table (Pool β)} {held : β → Multiset Resource} {p p' p₁ p₂ : Pool β} {e : Episode}
  {es : List Episode} {id : BufferId} {t : List Exchange}

/-- The pool `p'` has one buffer more than `p`, and that under an id. -/
structure Guest (p : Pool β) (id : BufferId) (p' : Pool β) : Prop where
  erase_eq : (p'.erase id).buffers = p.buffers
  found : (p'.get? id).isSome
  live_eq : p'.live = p.live + 1

theorem guest_add (fresh : p.get? p.nextId = none) (b : β) : Guest p p.nextId (p.add b) where
  erase_eq := (SortedMap.erase_insert _ _ _).trans (SortedMap.erase_of_get? fresh)
  found := by simp
  live_eq := rfl

theorem Guest.set (h : Guest p id p₁) (b : β) : Guest p id (p₁.set id b) where
  erase_eq := (SortedMap.erase_insert _ _ _).trans h.erase_eq
  found := by simp
  live_eq := h.live_eq

/-- A guest that is tried out stays a guest. -/
theorem Guest.step (h : Guest p id p₁) (effect : Effect New Mapped Unmapped p₁ e p₂)
    (tries : e.op.Tries id) : Guest p id p₂ := by
  cases effect with
  | failed _ | observed _ => exact h
  | added created _ =>
    rw [tries.idle.1] at created
    cases created
  | mapped _ _ | unmapped _ _ | torn _ _ _ =>
    cases tries
    exact h.set _
  | destroyed _ _ => cases tries

theorem Guest.of_ran
    (hstep : ∀ {p e p'}, Step table p e p' → Effect New Mapped Unmapped p e p')
    (h : Guest p id p₁) (run : Ran table p₁ es p₂) (tries : ∀ e ∈ es, e.op.Tries id) :
    Guest p id p₂ := by
  induction run with
  | start => exact h
  | step _ now ih =>
    have hbefore := ih fun e he => tries e (List.mem_append_left _ he)
    exact hbefore.step (hstep now) (tries _ (by simp))

/-- When the guest is destroyed, the buffers are those from before.  The count is so,
too, unless the device has not freed the object. -/
theorem Guest.gone (h : Guest p id p₁)
    (effect : Effect New Mapped Unmapped p₁ ⟨.destroy id, t, .ok ()⟩ p₂) :
    p₂.buffers = p.buffers ∧ ∃ freed, freeings t = [freed] ∧
      p₂.live = p.live + if freed then 0 else 1 := by
  cases effect with
  | observed h => cases h
  | added created _ => cases created
  | destroyed _ hreleased =>
    rcases hreleased with ⟨rfl, hfreed⟩ | ⟨rfl, hfreed⟩
    · exact ⟨h.erase_eq, false, hfreed, h.live_eq⟩
    · refine ⟨h.erase_eq, true, hfreed, ?_⟩
      show p₁.live - 1 = p.live + 0
      have hlive := h.live_eq
      omega

/-- What a probe does to a pool.  If it has created a buffer, then it has destroyed it,
and the device was asked once to free the object. -/
structure Restored (p : Pool β) (es : List Episode) (p' : Pool β) : Prop where
  buffers_eq : p'.buffers = p.buffers
  created_cases : createdIds es = [] ∧ p' = p ∨ ∃ id t freed, createdIds es = [id] ∧
    ⟨.destroy id, t, .ok ()⟩ ∈ es ∧ freeings t = [freed] ∧
    p'.live = p.live + if freed then 0 else 1

/-- Operations that create nothing keep the equation whatever ids are free. -/
theorem balanced_of_idle
    (hstep : ∀ {p e p'}, Step table p e p' → (e.created?.isSome → p.get? p.nextId = none) →
      e.acquired = acquired e.trace → Balanced (p.heldAll held) (p'.heldAll held) e.trace)
    (run : Ran table p es p') (idle : ∀ e ∈ es, e.created? = none ∧ e.acquired = acquired e.trace) :
    Balanced (p.heldAll held) (p'.heldAll held) (callsOf es) := by
  induction run with
  | start => exact .nil
  | @step history s s' e _ now ih =>
    obtain ⟨hcreated, hacquired⟩ := idle e (by simp)
    have hbefore := ih fun e he => idle e (List.mem_append_left _ he)
    rw [callsOf_append, callsOf_singleton]
    exact hbefore.trans (hstep now (by simp [hcreated]) hacquired)

section Courses

variable {options : ProbeOptions} {capabilities : Capabilities} {r : Except ProbeError Unit}

/-- A pool is restored by a probe, whose last step cannot fail. -/
theorem restored_of_course
    (hstep : ∀ {p e p'}, Step table p e p' → Effect New Mapped Unmapped p e p')
    (hdestroy : ∀ {p id t result p'}, (p.get? id).isSome →
      Step table p ⟨.destroy id, t, result⟩ p' → result = .ok ())
    (fresh : p.get? p.nextId = none) (course : Course options capabilities es r)
    (run : Ran table p es p') : Restored p es p' ∧ ∀ cause, r ≠ .error (.destroy cause) := by
  -- Between the first and the last operation the new buffer is a guest.
  have hvisit : ∀ {t id tried last r}, Follows (options.plan capabilities id) tried r →
      Ran table p (⟨.create options.desc options.placement, t, .ok id⟩ :: tried ++ [last]) p' →
      ∃ p₁, Guest p id p₁ ∧ Step table p₁ last p' ∧ createdIds tried = [] := by
    intro t id tried last r follows run
    have htries := Course.tries_of_follows follows
    obtain ⟨p₂, hbefore, now⟩ := run.last
    obtain ⟨p₁, first, hafter⟩ := hbefore.head
    have hturn : Turnover New _ p (some id) none p₁ := (hstep first).turnover
    cases hturn with
    | added _ =>
      refine ⟨p₂, (guest_add fresh _).of_ran hstep hafter htries, now, ?_⟩
      exact List.filterMap_eq_nil_iff.2 fun e he => (htries e he).idle.1
  cases course with
  | @refused t cause =>
    obtain ⟨p₁, now, hnil⟩ := run.head
    obtain rfl := hnil.eq_of_nil
    refine ⟨?_, by simp⟩
    rcases (hstep now).of_error with ⟨rfl, -⟩ | ⟨_, _, _, _, _, hop, -⟩
    · exact ⟨rfl, .inl ⟨rfl, rfl⟩⟩
    · cases hop
  | @gone t t' id tried r follows =>
    obtain ⟨p₁, guest, now, hcreated⟩ := hvisit follows run
    obtain ⟨hbuffers, freed, hfreed, hlive⟩ := guest.gone (hstep now)
    refine ⟨⟨hbuffers, .inr ⟨id, t', freed, ?_, by simp, hfreed, hlive⟩⟩, fun cause hr => ?_⟩
    · have hfirst : createdIds (⟨.create options.desc options.placement, t, .ok id⟩ :: tried) =
          id :: createdIds tried := List.filterMap_cons_some rfl
      rw [createdIds_append, hfirst, hcreated]
      rfl
    · subst hr
      obtain ⟨e, -, hof⟩ := Course.of_follows follows
      cases hof
  | @left t t' id tried r cause follows =>
    obtain ⟨p₁, guest, now, -⟩ := hvisit follows run
    cases hdestroy guest.found now

/-- What a probe has acquired and given back makes up for what its pool holds. -/
theorem balanced_of_course
    (hstep : ∀ {p e p'}, Step table p e p' → (e.created?.isSome → p.get? p.nextId = none) →
      e.acquired = acquired e.trace → Balanced (p.heldAll held) (p'.heldAll held) e.trace)
    (fresh : p.get? p.nextId = none) (course : Course options capabilities es r)
    (run : Ran table p es p') : Balanced (p.heldAll held) (p'.heldAll held) (callsOf es) := by
  obtain ⟨first, rest, rfl, hfirst, idle⟩ := course.exists_cons
  obtain ⟨p₁, now, hafter⟩ := run.head
  exact (hstep now (fun _ => fresh) hfirst).trans (balanced_of_idle hstep hafter idle)

/-- A pool that is restored holds what it held before, so what was acquired has been
given back. -/
theorem Restored.acquired_eq_released (h : Restored p es p')
    (balanced : Balanced (p.heldAll held) (p'.heldAll held) (callsOf es)) :
    acquired (callsOf es) = released (callsOf es) := by
  have hheld : p'.heldAll held = p.heldAll held := by
    simp only [heldAll, h.buffers_eq]
  rw [Balanced, hheld] at balanced
  exact add_left_cancel balanced

/-- A buffer that is there can be destroyed. -/
theorem destroyWith_ok {release : Pool β → β → Prog (Pool β)} (found : (p.get? id).isSome) :
    (destroyWith release p id).Ensures fun _ r => r.1 = .ok () := by
  obtain ⟨b, hb⟩ := Option.isSome_iff_exists.1 found
  have h : (release (p.erase id) b).Ensures fun _ _ => True := fun _ _ _ => trivial
  exact (destroyWith_of_found hb h).mono fun _ _ hr => hr.1

end Courses

end Pool

/-! ## All histories -/

section Backends

variable {pageSize : Nat} {options : ProbeOptions} {capabilities : Capabilities} {es : List Episode}
  {r : Except ProbeError Unit}

theorem Vmwgfx.restored_of_course {pool pool' : Vmwgfx.State} (fresh : pool.get? pool.nextId = none)
    (course : Course options capabilities es r)
    (run : Ran (Vmwgfx.perform pageSize) pool es pool') :
    pool.Restored es pool' ∧ (∀ cause, r ≠ .error (.destroy cause)) ∧
      acquired (callsOf es) = released (callsOf es) := by
  obtain ⟨restored, clean⟩ := Pool.restored_of_course perform_effect (fun found now => by
    have now : (destroy _ _).Runs _ _ := now
    rw [destroy_eq] at now
    exact Pool.destroyWith_ok found _ _ now) fresh course run
  exact ⟨restored, clean, restored.acquired_eq_released
    (Pool.balanced_of_course (fun now hfresh _ => perform_balanced now hfresh) fresh course run)⟩

theorem Rockchip.restored_of_course {pool pool' : Rockchip.State}
    (fresh : pool.get? pool.nextId = none) (course : Course options capabilities es r)
    (run : Ran Rockchip.perform pool es pool') :
    pool.Restored es pool' ∧ (∀ cause, r ≠ .error (.destroy cause)) ∧
      acquired (callsOf es) = released (callsOf es) := by
  obtain ⟨restored, clean⟩ := Pool.restored_of_course perform_effect (fun found now => by
    have now : (destroy _ _).Runs _ _ := now
    rw [destroy_eq] at now
    exact Pool.destroyWith_ok found _ _ now) fresh course run
  exact ⟨restored, clean, restored.acquired_eq_released
    (Pool.balanced_of_course (fun now hfresh hacquired => by
      have h := perform_balanced now hfresh
      rwa [hacquired] at h) fresh course run)⟩

end Backends

namespace Driver

variable {pageSize : Nat} {backend : Backend} {opening t : List Exchange} {history : List Episode}
  {start d d' : Driver} {options : ProbeOptions} {r : Except ProbeError Unit}

/-- What a driver is like after some operations that have restored it. -/
structure Restored (d : Driver) (es : List Episode) (d' : Driver) : Prop where
  ids_eq : d'.ids = d.ids
  buffer?_eq : ∀ id, d'.buffer? id = d.buffer? id
  acquired_eq : acquired (callsOf es) = released (callsOf es)
  created_cases : createdIds es = [] ∧ d' = d ∨ ∃ id t freed, createdIds es = [id] ∧
    ⟨.destroy id, t, .ok ()⟩ ∈ es ∧ freeings t = [freed] ∧
    d'.live = d.live + if freed then 0 else 1

/-- A probe takes one of its courses and restores its driver. -/
theorem restored_of_probe (hnew : (Driver.new backend).Runs opening start)
    (run : Ran (perform pageSize) start history d) (few : creations history < BufferId.count)
    (probed : (probe pageSize d options).Runs t (r, d')) : ∃ es, Ran (perform pageSize) d es d' ∧
      deviceExchanges t = deviceExchanges (callsOf es) ∧ Course options d.capabilities es r ∧
      (∀ cause, r ≠ .error (.destroy cause)) ∧ Restored d es d' := by
  obtain ⟨es, hran, hcalls, course⟩ := probe_course _ _ probed
  refine ⟨es, hran, hcalls, course, ?_⟩
  rcases ran_cases hnew run with ⟨pool, rfl, before⟩ | ⟨pool, rfl, reached⟩
  · obtain ⟨pool', rfl, hran'⟩ := (Ran.embed_iff step_vmwgfx_iff).1 hran
    have fresh := (Vmwgfx.numbered_of_ran before (Nat.le_of_lt few)).fresh few
    obtain ⟨restored, clean, hacquired⟩ := Vmwgfx.restored_of_course fresh course hran'
    refine ⟨clean, ?_, fun id => ?_, hacquired, ?_⟩
    · exact congrArg SortedMap.keys restored.buffers_eq
    · simp only [buffer?, Pool.get?, restored.buffers_eq]
    · exact restored.created_cases.imp_left fun h => ⟨h.1, congrArg vmwgfx h.2⟩
  · obtain ⟨pool', rfl, hran'⟩ := (Ran.embed_iff step_rockchip_iff).1 hran
    have fresh := (reached.numbered (Nat.le_of_lt few)).fresh few
    obtain ⟨restored, clean, hacquired⟩ := Rockchip.restored_of_course fresh course hran'
    refine ⟨clean, ?_, fun id => ?_, hacquired, ?_⟩
    · exact congrArg SortedMap.keys restored.buffers_eq
    · simp only [buffer?, Pool.get?, restored.buffers_eq]
    · exact restored.created_cases.imp_left fun h => ⟨h.1, congrArg rockchip h.2⟩

/-- A probe leaves nothing behind, whatever the device answers.  Its driver has the same
buffers as before, and all mappings, descriptors, views and objects that were
acquired have been given back.  What the probe has asked the device are the calls of
some operations on the driver.  If they have created a buffer, then they have destroyed
it, and it stays counted only if the device has not freed its object.
The probe ends well if and only if it has created a buffer and done with it all that
was asked for, and otherwise it reports the operation that has failed, which is never
the destruction of the buffer. -/
theorem probe_leaves_nothing_behind (hnew : (Driver.new backend).Runs opening start)
    (run : Ran (perform pageSize) start history d) (few : creations history < BufferId.count)
    (probed : (probe pageSize d options).Runs t (r, d')) :
    d'.ids = d.ids ∧ (∀ id, d'.buffer? id = d.buffer? id) ∧ acquired t = released t ∧
    ∃ episodes, Ran (perform pageSize) d episodes d' ∧
      deviceExchanges t = deviceExchanges (callsOf episodes) ∧
      (createdIds episodes = [] ∧ d' = d ∨
        ∃ id t₁ freed, createdIds episodes = [id] ∧ ⟨.destroy id, t₁, .ok ()⟩ ∈ episodes ∧
          freeings t₁ = [freed] ∧ d'.live = d.live + if freed then 0 else 1) ∧
      (r = .ok () ↔ ∃ t₁ id, ⟨.create options.desc options.placement, t₁, .ok id⟩ ∈ episodes ∧
        (options.map → Succeeded episodes (.map id) ∧ Succeeded episodes (.unmap id)) ∧
        ∀ color, options.fillColor = some color → d.capabilities.contains .fillRect →
          Succeeded episodes
            (.fillRect id (.full options.size.width options.size.height) color)) ∧
      ∀ error, r = .error error →
        (∀ cause, error ≠ .destroy cause) ∧ ∃ e ∈ episodes, error.Of e := by
  obtain ⟨es, hran, hcalls, course, clean, restored⟩ := restored_of_probe hnew run few probed
  refine ⟨restored.ids_eq, restored.buffer?_eq, ?_, es, hran, hcalls, restored.created_cases,
    course.eq_ok_iff clean, fun error hr => ?_⟩
  · rw [← acquired_deviceExchanges, hcalls, acquired_deviceExchanges, restored.acquired_eq,
      ← released_deviceExchanges, ← hcalls, released_deviceExchanges]
  · subst hr
    have hnever : ∀ cause, error ≠ .destroy cause := fun cause h => clean cause (congrArg _ h)
    exact ⟨hnever, course.exists_failure hnever⟩

/-- A device that grants every call, but takes neither mappings nor objects back. -/
def keepsAll : (c : Call) → c.Answer
  | .unmap _ => .error .invalidArgument
  | .ioctl (.gemClose _) => .error .invalidArgument
  | c => granted c

/-- A small buffer with a header that is mapped and filled. -/
def smallProbe : ProbeOptions where
  size := ⟨8, 2⟩
  headerSize := 16
  fillColor := some 255
  map := true

/-- The probe of a driver with one mapped buffer.  The new buffer cannot be unmapped, and
its object is not freed. -/
theorem probe_leaves_nothing_behind_sample :
    ∃ opening start history d t d', (Driver.new .rockchip).Runs opening start ∧
      Ran (perform 4096) start history d ∧ creations history = 1 ∧
      (probe 4096 d smallProbe).Runs t (.error (.unmap (.kernel .unmap .invalidArgument)), d') ∧
      d'.ids = d.ids ∧ d'.buffer? .first = d.buffer? .first ∧ acquired t = released t ∧
      d.ids = [.first] ∧ d.live = 1 ∧ d'.live = 2 := by
  have hnew : (Driver.new .rockchip).play keepsAll = some (_, .rockchip ∅) := rfl
  have hplay : (do
      let (history, d) ← playAll (perform 4096) keepsAll (.rockchip ∅)
        [.create ⟨.xrgb8888, 0, 8, 4⟩ .general, .map .first]
      let (_, r, d') ← (probe 4096 d smallProbe).play keepsAll
      return (creations history, d.ids, d.live, r, d'.live)) =
    some (1, [.first], 1, .error (.unmap (.kernel .unmap .invalidArgument)), 2) := rfl
  simp only [Option.bind_eq_bind, Option.bind_eq_some_iff, Prod.exists] at hplay
  obtain ⟨history, d, hops, t, r, d', hprobe, heq⟩ := hplay
  obtain ⟨hone, hids, hlive, rfl, hlive'⟩ := by
    simpa only [Option.pure_def, Option.some.injEq, Prod.mk.injEq] using heq
  have run := ran_of_playAll hops
  have few : creations history < BufferId.count := by
    rw [hone]
    decide
  obtain ⟨hids', hbuffers, hacquired, -⟩ :=
    probe_leaves_nothing_behind (runs_of_play hnew) run few (runs_of_play hprobe)
  exact ⟨_, _, history, d, t, d', runs_of_play hnew, run, hone, runs_of_play hprobe, hids',
    hbuffers .first, hacquired, hids, hlive, hlive'⟩

end Driver

end DrmSurface
