import DrmSurface.Proofs.Exact
import DrmSurface.Proofs.Rockchip.Change
import DrmSurface.Proofs.Rockchip.Calls

/-!
# The order of releases

A buffer holds up to four things: its mapping, the engine's view, its prime
descriptor and its object.  The driver gives them up in this order, each one
whatever was answered before.

There are four groups.

* `asked`, the calls of a run that are no notices, and `Prog.Makes`.  A program
  makes a list of calls if its runs are those calls with any answers.
* The buffers of a pool, which come in the order of their ids.
* `releaseCalls`, the calls that release one buffer.
* `release_order`, for the destruction of one buffer and for the teardown.
-/

namespace DrmSurface

open Prog (Exchange)

/-! ## Programs with a fixed list of calls -/

/-- The calls of a run that are no notices, with their answers. -/
def asked (trace : List Exchange) : List Exchange := trace.filter fun x => !x.call.isNotice

@[simp] theorem asked_nil : asked [] = [] := rfl

@[simp] theorem asked_append (t₁ t₂ : List Exchange) : asked (t₁ ++ t₂) = asked t₁ ++ asked t₂ :=
  List.filter_append ..

namespace Prog

variable {α β ε : Type} {p : Prog β} {f : β → Prog α} {calls calls' : List Call}

/-- The program makes these calls in this order, beside notices, whatever is
answered: some run gets any given answers, and there are no other runs. -/
def Makes (p : Prog α) (calls : List Call) : Prop :=
  ∀ xs : List Exchange, (∃ t a, p.Runs t a ∧ asked t = xs) ↔ xs.map (·.call) = calls

theorem makes_pure {a : α} : (pure a : Prog α).Makes [] := by
  intro xs
  rw [List.map_eq_nil_iff]
  constructor
  · rintro ⟨t, b, run, rfl⟩
    obtain ⟨rfl, -⟩ := runs_done_iff.1 run
    rfl
  · rintro rfl
    exact ⟨[], a, .done a, rfl⟩

theorem makes_call {c : Call} (h : c.isNotice = false) : (call c).Makes [c] := by
  have hasked : ∀ answer : c.Answer, asked [⟨c, answer⟩] = [⟨c, answer⟩] := by
    intro answer
    simp [asked, h]
  intro xs
  constructor
  · rintro ⟨t, answer, run, rfl⟩
    rw [runs_call_iff.1 run, hasked, List.map_singleton]
  · intro hxs
    obtain ⟨⟨c', answer⟩, rfl, rfl⟩ := List.map_eq_singleton_iff.1 hxs
    exact ⟨_, answer, runs_call_iff.2 rfl, hasked answer⟩

theorem makes_log {n : Notice} : (log n).Makes [] := by
  intro xs
  rw [List.map_eq_nil_iff]
  constructor
  · rintro ⟨t, _, run, rfl⟩
    rw [runs_log_iff.1 run]
    rfl
  · rintro rfl
    exact ⟨_, (), runs_log_iff.2 rfl, rfl⟩

/-- What comes second makes the same calls after every result of the first. -/
theorem Makes.bind (hp : p.Makes calls) (hf : ∀ b, (f b).Makes calls') :
    (p >>= f).Makes (calls ++ calls') := by
  intro xs
  constructor
  · rintro ⟨t, a, run, rfl⟩
    obtain ⟨b, t₁, t₂, rfl, run₁, run₂⟩ := runs_bind_iff.1 run
    rw [asked_append, List.map_append, (hp _).1 ⟨t₁, b, run₁, rfl⟩, (hf b _).1 ⟨t₂, a, run₂, rfl⟩]
  · intro hxs
    obtain ⟨xs₁, xs₂, rfl, hfirst, hthen⟩ := List.map_eq_append_iff.1 hxs
    obtain ⟨t₁, b, run₁, rfl⟩ := (hp xs₁).2 hfirst
    obtain ⟨t₂, a, run₂, rfl⟩ := (hf b xs₂).2 hthen
    exact ⟨t₁ ++ t₂, a, run₁.bind run₂, asked_append t₁ t₂⟩

theorem makes_logFailure {outcome : Except ε Unit} {notice : ε → Notice} :
    (logFailure outcome notice).Makes [] := by
  cases outcome with
  | ok _ => exact makes_pure
  | error e => exact makes_log

end Prog

/-! ## The buffers of a pool -/

namespace SortedMap

variable {κ ν : Type} [Ord κ]

/-- The values of a map are those of its keys. -/
theorem values_eq_filterMap [Std.TransOrd κ] (m : SortedMap κ ν) :
    m.values = m.keys.filterMap m.get? := by
  have hascending := m.ascending
  have hentries : m.keys.filterMap m.get? = m.entries.filterMap fun e => lookup e.1 m.entries :=
    List.filterMap_map ..
  rw [hentries, values]
  generalize m.entries = entries at hascending ⊢
  induction entries with
  | nil => rfl
  | cons e es ih =>
    obtain ⟨hhead, htail⟩ := List.pairwise_cons.1 hascending
    have hrest : (es.filterMap fun a => lookup a.1 (e :: es)) =
        es.filterMap fun a => lookup a.1 es := by
      refine List.filterMap_congr fun a ha => ?_
      -- The key of a later entry is above the first one.
      rw [lookup, Std.OrientedCmp.gt_of_lt (hhead a ha)]
      rfl
    have hfirst : lookup e.1 (e :: es) = some e.2 := by
      rw [lookup, if_pos Std.ReflCmp.compare_self]
    simp only [List.map_cons, List.filterMap_cons, hfirst, hrest, ih htail]

end SortedMap

/-- The ids of a pool ascend. -/
theorem Pool.ids_ascend {β : Type} (p : Pool β) :
    p.ids.Pairwise fun a b => a.value < b.value := by
  refine List.pairwise_map.2 (p.buffers.ascending.imp fun {a b} h => ?_)
  rwa [BufferId.compare_def, Std.compare_eq_lt] at h

namespace Rockchip

open Prog
open Attempt hiding asks_pure ensures_bind_iff ensures_pure_iff

variable {pool : State} {b : Buffer} {id : BufferId}

/-! ## The calls of a release -/

/-- The calls that release a buffer. -/
def releaseCalls (b : Buffer) : List Call :=
  (b.surface.mapping.map Call.unmap).toList ++
    (b.view.map fun view => Call.engine (.release view.handle)).toList ++
    (b.surface.prime.map Call.closePrime).toList ++
    [.ioctl (.gemClose b.surface.handle)]

theorem releaseMapping_makes :
    (releaseMapping b).Makes (b.surface.mapping.map Call.unmap).toList := by
  unfold releaseMapping
  cases b.surface.mapping with
  | none => exact makes_pure
  | some m => exact (makes_call rfl).bind fun _ => makes_logFailure

theorem releaseView_makes :
    (releaseView b).Makes (b.view.map fun view => Call.engine (.release view.handle)).toList := by
  unfold releaseView
  cases b.view with
  | none => exact makes_pure
  | some view => exact (makes_call rfl).bind fun _ => makes_logFailure

theorem releasePrime_makes :
    (releasePrime b).Makes (b.surface.prime.map Call.closePrime).toList := by
  unfold releasePrime
  cases b.surface.prime with
  | none => exact makes_pure
  | some fd => exact makes_call rfl

theorem release_makes (pool : State) (b : Buffer) : (release pool b).Makes (releaseCalls b) := by
  rw [releaseCalls, List.append_assoc, List.append_assoc]
  refine releaseMapping_makes.bind fun _ => releaseView_makes.bind fun _ => ?_
  refine releasePrime_makes.bind fun _ => (makes_call rfl).bind fun outcome => ?_
  cases outcome <;> exact makes_log.bind fun _ => makes_pure

theorem releaseAll_makes (pool : State) (bs : List Buffer) :
    (releaseAll pool bs).Makes (bs.flatMap releaseCalls) := by
  induction bs generalizing pool with
  | nil => exact makes_pure
  | cons b bs ih => exact (release_makes pool b).bind ih

/-! ## Destruction and teardown -/

/-- The destruction of a buffer is its release, and it succeeds. -/
theorem step_destroy_iff (hb : pool.get? id = some b) {xs : List Exchange}
    {r : Except DriverError Unit} :
    (∃ t pool', Step perform pool ⟨.destroy id, t, r⟩ pool' ∧ asked t = xs) ↔
      r = .ok () ∧ xs.map (·.call) = releaseCalls b := by
  have hstep : ∀ t pool', Step perform pool ⟨.destroy id, t, r⟩ pool' ↔
      r = .ok () ∧ (release (pool.erase id) b).Runs t pool' := by
    intro t pool'
    have hdestroy : destroy pool id = release (pool.erase id) b >>= fun p => pure (.ok (), p) := by
      simp only [destroy, hb]
    show (destroy pool id).Runs t (r, pool') ↔ _
    rw [hdestroy, runs_bind_pure_iff]
    constructor
    · rintro ⟨p, heq, run⟩
      cases heq
      exact ⟨rfl, run⟩
    · rintro ⟨rfl, run⟩
      exact ⟨pool', rfl, run⟩
  simp only [hstep, ← release_makes (pool.erase id) b xs, and_assoc, exists_and_left]

theorem teardown_makes (pool : State) :
    (teardown pool).Makes ((pool.ids.filterMap pool.get?).flatMap releaseCalls) := by
  have hreleaseAll : (do
      let _ ← releaseAll pool.emptied pool.buffers.values
      return () : Prog Unit).Makes (pool.buffers.values.flatMap releaseCalls ++ []) :=
    (releaseAll_makes _ _).bind fun _ => makes_pure
  have hvalues : pool.buffers.values = pool.ids.filterMap pool.get? :=
    pool.buffers.values_eq_filterMap
  rw [List.append_nil] at hreleaseAll
  rw [← hvalues]
  unfold teardown
  split
  · exact makes_log.bind fun _ => hreleaseAll
  · exact hreleaseAll

/-- The destruction of a buffer succeeds, and it gives up the mapping of the
buffer, its view, its descriptor and its object, those of them that it has, in
this order.  The teardown does so for each buffer that is left, one after the
other with ascending ids.  Each of these calls is made whatever was answered to
those before it, and there are no calls beside them but notices. -/
theorem release_order (pool : State) :
    (∀ id b, pool.get? id = some b → ∀ xs r,
      (∃ t pool', Step perform pool ⟨.destroy id, t, r⟩ pool' ∧ asked t = xs) ↔
        r = .ok () ∧ xs.map (·.call) = releaseCalls b) ∧
    (pool.ids.Pairwise fun a b => a.value < b.value) ∧
    (∀ id, id ∈ pool.ids ↔ ∃ b, pool.get? id = some b) ∧
    ∀ xs, (∃ t, (teardown pool).Runs t () ∧ asked t = xs) ↔
      xs.map (·.call) = (pool.ids.filterMap pool.get?).flatMap releaseCalls := by
  refine ⟨fun id b hb xs r => step_destroy_iff hb, pool.ids_ascend, fun id => ?_, fun xs => ?_⟩
  · rw [Pool.mem_ids_iff, Option.isSome_iff_exists]
  · rw [← teardown_makes pool xs]
    exact ⟨fun ⟨t, h⟩ => ⟨t, (), h⟩, fun ⟨t, _, h⟩ => ⟨t, h⟩⟩

/-- The answers of a device and an engine that take nothing back from a buffer
that has all four things. -/
def refusedRelease (m : Mapping) (view : EngineHandle) (fd : Descriptor) (handle : UInt32) :
    List Exchange :=
  [⟨.unmap m, .error .invalidArgument⟩,
    ⟨.engine (.release view), .error ⟨"release", -1, "busy"⟩⟩, ⟨.closePrime fd, ()⟩,
    ⟨.ioctl (.gemClose handle), .error .invalidArgument⟩]

/-- A buffer that is mapped, and another one that was imported by its name.  Nothing
is taken back in the destruction of the first, nor in a teardown. -/
theorem release_order_sample :
    ∃ opening history pool t pool' closing, Reached opening history pool ∧
      pool.ids = [.first, BufferId.first.next] ∧
      Step perform pool ⟨.destroy .first, t, .ok ()⟩ pool' ∧
      asked t = refusedRelease ⟨⟨4096⟩, 160⟩ ⟨160⟩ ⟨160⟩ 160 ∧
      (teardown pool).Runs closing () ∧
      asked closing = refusedRelease ⟨⟨4096⟩, 160⟩ ⟨160⟩ ⟨160⟩ 160 ++
        (refusedRelease ⟨⟨4096⟩, 128⟩ ⟨3⟩ ⟨3⟩ 3).tail := by
  have hplay : (playLife granted [.create ⟨.xrgb8888, 16, 8, 4⟩ .general,
      .importName 3 ⟨.xrgb8888, 0, 8, 4⟩ 32, .map .first]).map (fun r =>
        (r.2.2.1.ids, (r.2.2.1.get? .first).map releaseCalls,
          (r.2.2.1.ids.filterMap r.2.2.1.get?).flatMap releaseCalls)) =
      some ([.first, BufferId.first.next],
        some ((refusedRelease ⟨⟨4096⟩, 160⟩ ⟨160⟩ ⟨160⟩ 160).map (·.call)),
        (refusedRelease ⟨⟨4096⟩, 160⟩ ⟨160⟩ ⟨160⟩ 160 ++
          (refusedRelease ⟨⟨4096⟩, 128⟩ ⟨3⟩ ⟨3⟩ 3).tail).map (·.call)) := rfl
  obtain ⟨⟨opening, history, pool, _⟩, hlife, heq⟩ := Option.map_eq_some_iff.1 hplay
  obtain ⟨hids, hfirst, hall⟩ := by simpa only [Prod.mk.injEq] using heq
  obtain ⟨b, hb, hcalls⟩ := Option.map_eq_some_iff.1 hfirst
  obtain ⟨hdestroy, -, -, hteardown⟩ := release_order pool
  obtain ⟨t, pool', hstep, hasked⟩ := (hdestroy .first b hb _ (.ok ())).2 ⟨rfl, hcalls.symm⟩
  obtain ⟨closing, htorn, hclosing⟩ := (hteardown _).2 hall.symm
  exact ⟨opening, history, pool, t, pool', closing, (life_of_playLife hlife).1, hids, hstep,
    hasked, htorn, hclosing⟩

end Rockchip

end DrmSurface
