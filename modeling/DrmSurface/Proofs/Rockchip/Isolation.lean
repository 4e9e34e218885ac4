import DrmSurface.Proofs.Agreement
import DrmSurface.Proofs.Rockchip.Calls
import DrmSurface.Proofs.Rockchip.Change
import Mathlib.Data.List.Forall2

/-!
# The engine has no influence on what the kernel is asked

Two drivers that have the same kernel and perform the same operations, apart
from those of the engine, ask the kernel the same and give the same results,
whatever their engines answer.  The simulation forgets the views of buffers
and keeps their surfaces.

There are four groups.

* `shown`, what a pool shows: its buffers without their views.
* Parts of the driver agree on pools that show the same.
* `perform_agree` and `teardown_agree`, for whole operations.
* Histories.  The operations of the engine are left out, and the others are
  compared one after another.
-/

namespace DrmSurface.Rockchip

open Prog
open Attempt hiding agree_pure asks_pure ensures_bind_iff ensures_pure_iff

/-! ## What a pool shows -/

/-- A pool without the views of its buffers. -/
def shown (pool : State) : Pool Surface := pool.map (·.surface)

/-- The two buffers differ in their views and their codes at most. -/
def Alike (b c : Buffer) : Prop := b.surface = c.surface

variable {pool pool' : State} {b c : Buffer}

theorem nextId_of_shown (h : shown pool = shown pool') : pool.nextId = pool'.nextId := by
  have hnext : (shown pool).nextId = (shown pool').nextId := by rw [h]
  rwa [shown, shown, Pool.nextId_map, Pool.nextId_map] at hnext

theorem live_of_shown (h : shown pool = shown pool') : pool.live = pool'.live := by
  have hlive : (shown pool).live = (shown pool').live := by rw [h]
  rwa [shown, shown, Pool.live_map, Pool.live_map] at hlive

theorem ids_of_shown (h : shown pool = shown pool') : pool.ids = pool'.ids := by
  have hids : (shown pool).ids = (shown pool').ids := by rw [h]
  rwa [shown, shown, Pool.ids_map, Pool.ids_map] at hids

theorem get?_of_shown (h : shown pool = shown pool') (id : BufferId) :
    Option.Rel Alike (pool.get? id) (pool'.get? id) := by
  have hget : (pool.get? id).map (·.surface) = (pool'.get? id).map (·.surface) := by
    rw [← Pool.get?_map, ← Pool.get?_map]
    exact congrArg (Pool.get? · id) h
  cases hb : pool.get? id with
  | none =>
    cases hc : pool'.get? id with
    | none => exact .none
    | some c => simp [hb, hc] at hget
  | some b =>
    cases hc : pool'.get? id with
    | none => simp [hb, hc] at hget
    | some c => exact .some (by simpa [Alike, hb, hc] using hget)

theorem shown_set (h : shown pool = shown pool') (hbc : Alike b c) (id : BufferId) :
    shown (pool.set id b) = shown (pool'.set id c) := by
  simp only [shown, Pool.map_set] at *
  rw [h, show b.surface = c.surface from hbc]

theorem shown_add (h : shown pool = shown pool') (hbc : Alike b c) :
    shown (pool.add b) = shown (pool'.add c) := by
  simp only [shown, Pool.map_add] at *
  rw [h, show b.surface = c.surface from hbc]

theorem shown_erase (h : shown pool = shown pool') (id : BufferId) :
    shown (pool.erase id) = shown (pool'.erase id) := by
  simp only [shown, Pool.map_erase] at *
  rw [h]

theorem shown_freed (h : shown pool = shown pool') : shown pool.freed = shown pool'.freed := by
  simp only [shown, Pool.map_freed] at *
  rw [h]

/-! ## Parts of the driver -/

theorem share_agree (h : Alike b c) : Agree Alike (share b) (share c) := by
  unfold share
  rw [show b.surface = c.surface from h]
  split
  · exact agree_pure h
  · apply Device.agree_primeHandleToFd.bind
    intro answer answer' hanswer
    rw [← hanswer]
    cases answer with
    | ok fd => exact agree_pure rfl
    | error e => exact agree_log.bind fun _ _ _ => agree_pure h

theorem importView_silent : Asks (·.isKernel = false) (importView b) :=
  importView_asks (fun _ _ _ _ => rfl) fun _ => rfl

/-- Whether the engine imports a buffer or not, its surface stays the same. -/
theorem wrap_agree (h : Alike b c) : Agree Alike (wrap b) (wrap c) := by
  apply (share_agree h).bind
  intro b' c' h'
  apply agree_of_asks importView_silent importView_silent
  intro t t' b'' c'' run run'
  have hb : b''.surface = b'.surface := importView_surface _ _ _ run
  have hc : c''.surface = c'.surface := importView_surface _ _ _ run'
  exact hb.trans (h'.trans hc.symm)

/-- Equal results, and pools that show the same. -/
def Same {α : Type} (x y : α × State) : Prop := x.1 = y.1 ∧ shown x.2 = shown y.2

variable {desc : SurfaceDesc} {g : Geometry} {pitch : UInt32} {size? : Option Nat}

theorem admitted_agree (h : shown pool = shown pool') {origin : Origin} :
    Agree Same (admitted pool origin desc g) (admitted pool' origin desc g) := by
  have hid := nextId_of_shown h
  apply agree_log.bind
  intro _ _ _
  refine Agree.bind (R := Alike) (wrap_agree ?_) fun b c hbc => ?_
  · rw [hid]
    rfl
  · exact agree_pure ⟨hid, shown_add h hbc⟩

theorem create_agree (h : shown pool = shown pool') {placement : Placement} :
    Agree (Outcomes Same) (create pool desc placement).run (create pool' desc placement).run := by
  apply agree_refuse
  intro g
  apply agree_request (agree_call (.ioctl (.rockchipGemCreate _ _)) rfl)
  intro handle
  exact agree_lift (admitted_agree h)

theorem importHandle_agree (h : shown pool = shown pool') {handle : UInt32} :
    Agree (Outcomes Same) (importHandle pool handle size? desc pitch).run
      (importHandle pool' handle size? desc pitch).run :=
  agree_refuse fun _ => agree_lift (admitted_agree h)

theorem importName_agree (h : shown pool = shown pool') {name : UInt32} :
    Agree (Outcomes Same) (importName pool name desc pitch).run
      (importName pool' name desc pitch).run := by
  apply agree_refuse
  intro g
  apply agree_request (agree_call (.ioctl (.gemOpen _)) rfl)
  intro object
  split
  · apply agree_bind (agree_lift agree_log)
    intro _ _ _
    apply agree_bind (agree_lift (agree_call (.ioctl (.gemClose _)) rfl))
    intro _ _ _
    exact agree_bind (agree_lift agree_logFailure) fun _ _ _ => agree_throw
  · exact agree_lift (admitted_agree h)

theorem openPrime_agree {fd : Descriptor} :
    Agree (Outcomes Eq) (openPrime fd size? desc pitch).run
      (openPrime fd size? desc pitch).run := by
  apply agree_request (agree_call (.size _) rfl)
  intro fileSize
  apply agree_bind (agree_lift agree_log)
  intro _ _ _
  dsimp only
  split
  · exact agree_bind (agree_lift agree_log) fun _ _ _ => agree_throw
  · apply agree_refuse
    intro g
    apply agree_request (agree_call (.ioctl (.primeFdToHandle _ _)) rfl)
    intro handle
    exact Attempt.agree_pure rfl

theorem importPrime_agree (h : shown pool = shown pool') {fd : Descriptor} :
    Agree Same (importPrime pool fd size? desc pitch) (importPrime pool' fd size? desc pitch) := by
  apply openPrime_agree.bind
  intro outcome outcome' hout
  cases outcome with
  | ok opened =>
    cases outcome' with
    | ok opened' =>
      obtain rfl : opened = opened' := hout
      refine (admitted_agree h).bind fun x y hxy => agree_pure ⟨?_, hxy.2⟩
      exact congrArg Except.ok hxy.1
    | error e => cases hout
  | error e =>
    cases outcome' with
    | ok opened => cases hout
    | error e' =>
      obtain rfl : e = e' := hout
      exact (agree_call (.close fd) rfl).bind fun _ _ _ => agree_pure ⟨rfl, h⟩

theorem mapSource_agree (h : Alike b c) :
    Agree (Outcomes Eq) (mapSource b).run (mapSource c).run := by
  unfold mapSource
  rw [show b.surface = c.surface from h]
  split
  · exact Attempt.agree_pure rfl
  · apply agree_request (agree_call (.ioctl (.rockchipGemMapOffset _)) rfl)
    intro offset
    exact Attempt.agree_pure rfl

theorem map_agree (h : shown pool = shown pool') {id : BufferId} :
    Agree (Outcomes Same) (map pool id).run (map pool' id).run := by
  refine agree_bind (agree_ofOption (get?_of_shown h id)) fun b c hbc => ?_
  have hsurface : b.surface = c.surface := hbc
  rw [hsurface]
  split
  · exact agree_throw
  · apply agree_bind (mapSource_agree hbc)
    intro place place' hplace
    rw [← hplace]
    apply agree_request Device.agree_map
    intro mapping
    refine Attempt.agree_pure ⟨rfl, shown_set h ?_ id⟩
    rfl

theorem unmap_agree (h : shown pool = shown pool') {id : BufferId} :
    Agree Same (unmap pool id) (unmap pool' id) := by
  have hget := get?_of_shown h id
  unfold unmap
  generalize pool.get? id = found, pool'.get? id = found' at hget ⊢
  cases hget with
  | none => exact agree_pure ⟨rfl, h⟩
  | @some b c hbc =>
    have hsurface : b.surface = c.surface := hbc
    dsimp only
    rw [hsurface]
    split
    · exact agree_pure ⟨rfl, h⟩
    · apply (agree_call (.unmap _) rfl).bind
      intro answer answer' hanswer
      rw [← hanswer]
      have hset : Alike { b with surface := { c.surface with mapping := none } }
          { c with surface := { c.surface with mapping := none } } := rfl
      cases answer with
      | ok _ => exact agree_pure ⟨rfl, shown_set h hset id⟩
      | error e => exact agree_log.bind fun _ _ _ => agree_pure ⟨rfl, shown_set h hset id⟩

theorem exportPrime_agree (h : shown pool = shown pool') {id : BufferId} :
    Agree (Outcomes Eq) (exportPrime pool id).run (exportPrime pool' id).run := by
  have horKernelError : ∀ {op : KernelOp} {outcome outcome' : Except Errno Descriptor},
      outcome = outcome' →
        Agree (Outcomes Eq) (orKernelError op outcome).run (orKernelError op outcome').run := by
    rintro op outcome - rfl
    cases outcome with
    | ok fd => exact Attempt.agree_pure rfl
    | error e => exact agree_throw
  refine agree_bind (agree_ofOption (get?_of_shown h id)) fun b c hbc => ?_
  have hsurface : b.surface = c.surface := hbc
  rw [hsurface]
  split
  · exact agree_bind (agree_lift (agree_call (.duplicate _) rfl)) fun _ _ => horKernelError
  · exact agree_bind (agree_lift Device.agree_primeHandleToFd) fun _ _ => horKernelError

theorem releaseView_silent : Asks (·.isKernel = false) (releaseView b) := by
  unfold releaseView
  split
  · exact asks_pure
  · exact Asks.bind (asks_call rfl) fun _ => asks_logFailure fun _ => rfl

/-- Whether a buffer has a view or not, the kernel takes back the same. -/
theorem release_agree (h : shown pool = shown pool') (hbc : Alike b c) :
    Agree (fun p q => shown p = shown q) (release pool b) (release pool' c) := by
  have hsurface : b.surface = c.surface := hbc
  have hmapping : Agree Eq (releaseMapping b) (releaseMapping c) := by
    unfold releaseMapping
    rw [hsurface]
    split
    · exact agree_pure rfl
    · exact (agree_call (.unmap _) rfl).bind fun _ _ _ => agree_logFailure
  have hview : Agree Eq (releaseView b) (releaseView c) :=
    agree_of_asks releaseView_silent releaseView_silent fun _ _ _ _ _ _ => rfl
  have hprime : Agree Eq (releasePrime b) (releasePrime c) := by
    unfold releasePrime
    rw [hsurface]
    split
    · exact agree_pure rfl
    · exact agree_call (.closePrime _) rfl
  apply hmapping.bind
  intro _ _ _
  apply hview.bind
  intro _ _ _
  apply hprime.bind
  intro _ _ _
  rw [hsurface]
  apply (agree_call (.ioctl (.gemClose _)) rfl).bind
  intro answer answer' hanswer
  rw [← hanswer]
  cases answer with
  | ok _ => exact agree_log.bind fun _ _ _ => agree_pure (shown_freed h)
  | error e => exact agree_log.bind fun _ _ _ => agree_pure h

theorem destroy_agree (h : shown pool = shown pool') {id : BufferId} :
    Agree Same (destroy pool id) (destroy pool' id) := by
  have hget := get?_of_shown h id
  unfold destroy
  generalize pool.get? id = found, pool'.get? id = found' at hget ⊢
  cases hget with
  | none => exact agree_pure ⟨rfl, h⟩
  | some hbc =>
    apply (release_agree (shown_erase h id) hbc).bind
    intro p q hpq
    exact agree_pure ⟨rfl, hpq⟩

/-! ## Operations -/

/-- An operation without the engine. -/
theorem perform_agree (h : shown pool = shown pool') {op : Operation}
    (hop : op.isAccelerated = false) : Agree Same (perform pool op) (perform pool' op) := by
  cases op with
  | flush => exact agree_pure ⟨rfl, h⟩
  | create => exact agree_commit (T := fun p q => shown p = shown q) h (create_agree h)
  | importHandle =>
    exact agree_commit (T := fun p q => shown p = shown q) h (importHandle_agree h)
  | importName => exact agree_commit (T := fun p q => shown p = shown q) h (importName_agree h)
  | importPrime => exact importPrime_agree h
  | map => exact agree_commit (T := fun p q => shown p = shown q) h (map_agree h)
  | unmap => exact unmap_agree h
  | destroy => exact destroy_agree h
  | exportPrime =>
    exact agree_observe (T := fun p q => shown p = shown q) h (exportPrime_agree h)
  | fillRect | checkBlit | blit | copy | rotate | flip => cases hop

theorem releaseAll_agree {bs cs : List Buffer} (h : shown pool = shown pool')
    (hbs : List.Forall₂ Alike bs cs) :
    Agree (fun _ _ => True) (releaseAll pool bs) (releaseAll pool' cs) := by
  induction hbs generalizing pool pool' with
  | nil => exact agree_pure trivial
  | cons hbc _ ih => exact (release_agree h hbc).bind fun p q hpq => ih hpq

theorem teardown_agree (h : shown pool = shown pool') :
    Agree Eq (teardown pool) (teardown pool') := by
  have hbuffers : List.Forall₂ Alike pool.buffers.values pool'.buffers.values := by
    have hvalues : pool.buffers.values.map (·.surface) = pool'.buffers.values.map (·.surface) := by
      rw [← SortedMap.values_mapValues, ← SortedMap.values_mapValues]
      exact congrArg (fun p : Pool Surface => p.buffers.values) h
    have hforall : List.Forall₂ Eq (pool.buffers.values.map (·.surface))
        (pool'.buffers.values.map (·.surface)) := by
      rw [List.forall₂_eq_eq_eq]
      exact hvalues
    rwa [List.forall₂_map_left_iff, List.forall₂_map_right_iff] at hforall
  have hemptied : shown pool.emptied = shown pool'.emptied := by
    simp only [shown, Pool.map_emptied] at *
    rw [h]
  have hreleaseAll : Agree Eq (do
        let _ ← releaseAll pool.emptied pool.buffers.values
        return ())
      (do
        let _ ← releaseAll pool'.emptied pool'.buffers.values
        return ()) :=
    (releaseAll_agree hemptied hbuffers).bind fun _ _ _ => agree_pure rfl
  unfold teardown
  rw [live_of_shown h]
  split
  · exact agree_log.bind fun _ _ _ => hreleaseAll
  · exact hreleaseAll

theorem new_silent : Asks (·.isKernel = false) new := by
  refine Asks.bind (asks_call rfl) fun info => ?_
  cases info with
  | none => exact asks_pure
  | some text => exact Asks.bind (asks_log fun _ => rfl) fun _ => asks_pure

/-! ## Histories -/

/-- The episodes of a history that the engine has no part in. -/
def plain (history : List Episode) : List Episode :=
  history.filter fun e => !e.op.isAccelerated

/-- The operations of some episodes, with their results. -/
def outcomes (history : List Episode) :
    List (Σ op : Operation, Except DriverError op.Result) :=
  history.map fun e => ⟨e.op, e.result⟩

variable {history history' : List Episode} {start start' : State} {e : Episode}

/-- An operation of the engine does not ask the kernel. -/
theorem kernelCalls_of_isAccelerated (h : Step perform pool e pool') (hop : e.op.isAccelerated) :
    kernelCalls e.trace = [] := by
  have hkind : ∀ c : Call, c.composes ∨ c.isNotice → c.isKernel = false := by
    intro c hc
    cases c <;> simp_all [Call.composes, Call.isNotice, Call.isKernel]
  exact kernelCalls_eq_nil fun x hx => hkind _ (accelerated_asks hop _ _ h x hx)

/-- Without the operations of the engine a history is a history again. -/
theorem ran_plain (run : Ran perform start history pool) :
    Ran perform start (plain history) pool ∧
      kernelCalls (callsOf (plain history)) = kernelCalls (callsOf history) := by
  induction run with
  | start => exact ⟨.start, rfl⟩
  | @step history s s' e before now ih =>
    obtain ⟨hran, hcalls⟩ := ih
    by_cases hop : e.op.isAccelerated
    · obtain rfl : s' = s := pool_eq_of_isAccelerated now hop
      have hsilent := kernelCalls_of_isAccelerated now hop
      have hplain : plain (history ++ [e]) = plain history := by
        simp [plain, hop]
      rw [hplain]
      exact ⟨hran, by simp [hcalls, hsilent]⟩
    · have hplain : plain (history ++ [e]) = plain history ++ [e] := by
        simp [plain, hop]
      rw [hplain]
      exact ⟨hran.step now, by simp [hcalls]⟩

/-- The same operations without the engine, one after another. -/
theorem ran_agree {kernel : Kernel} {past : List Exchange} (hstart : shown start = shown start')
    (run : Ran perform start history pool) (run' : Ran perform start' history' pool')
    (hplain : ∀ e ∈ history, e.op.isAccelerated = false)
    (same : history.map (·.op) = history'.map (·.op))
    (answers : kernel.Answers past (kernelCalls (callsOf history)))
    (answers' : kernel.Answers past (kernelCalls (callsOf history'))) :
    kernelCalls (callsOf history) = kernelCalls (callsOf history') ∧
      outcomes history = outcomes history' ∧ shown pool = shown pool' := by
  induction run generalizing history' pool' with
  | start =>
    obtain rfl : history' = [] := by simpa using same.symm
    rw [run'.eq_of_nil]
    exact ⟨rfl, rfl, hstart⟩
  | @step history s s₁ e before now ih =>
    rcases List.eq_nil_or_concat' history' with rfl | ⟨history', e', rfl⟩
    · simp at same
    obtain ⟨s', before', now'⟩ := run'.last
    rw [List.map_append, List.map_append] at same
    obtain ⟨hops, hop⟩ := List.append_inj' same rfl
    simp only [callsOf_append, callsOf_singleton, kernelCalls_append,
      Kernel.answers_append_iff] at answers answers' ⊢
    obtain ⟨hcalls, hout, hshown⟩ :=
      ih before' (fun x hx => hplain x (by simp [hx])) hops answers.1 answers'.1
    obtain ⟨op, t, r⟩ := e
    obtain ⟨op', t', r'⟩ := e'
    obtain rfl : op = op' := by simpa using hop
    -- Both last operations start after the same past.
    rw [← hcalls] at answers'
    obtain ⟨htrace, hresult, hlast⟩ := perform_agree hshown (hplain _ (by simp)) kernel _ _ _ _ _
      now now' answers.2 answers'.2
    obtain rfl : r = r' := hresult
    refine ⟨?_, ?_, hlast⟩
    · rw [hcalls, htrace]
    · simp only [outcomes, List.map_append] at hout ⊢
      rw [hout]
      rfl

/-- Two lives against one kernel whose operations are the same apart from
those of the engine.  The kernel is asked the same with the same answers, also
by the two teardowns, the operations have the same results, and the same
buffers are left. -/
theorem engine_has_no_influence {kernel : Kernel} {opening opening' : List Exchange}
    (reached : Reached opening history pool) (reached' : Reached opening' history' pool')
    (answers : kernel.Answers [] (kernelCalls (opening ++ callsOf history)))
    (answers' : kernel.Answers [] (kernelCalls (opening' ++ callsOf history')))
    (same : (plain history).map (·.op) = (plain history').map (·.op)) :
    kernelCalls (opening ++ callsOf history) = kernelCalls (opening' ++ callsOf history') ∧
      outcomes (plain history) = outcomes (plain history') ∧
      (pool.ids = pool'.ids ∧ pool.live = pool'.live ∧
        ∀ id, (pool.get? id).map (·.surface) = (pool'.get? id).map (·.surface)) ∧
      ∀ closing closing', (teardown pool).Runs closing () → (teardown pool').Runs closing' () →
        kernel.Answers [] (kernelCalls (opening ++ callsOf history ++ closing)) →
        kernel.Answers [] (kernelCalls (opening' ++ callsOf history' ++ closing')) →
        kernelCalls closing = kernelCalls closing' := by
  have hopening : ∀ {t : List Exchange} {s : State}, new.Runs t s → kernelCalls t = [] :=
    fun run => kernelCalls_eq_nil (new_silent _ _ run)
  have hopen : kernelCalls opening = [] := by
    obtain ⟨_, hnew, -⟩ := reached
    exact hopening hnew
  have hopen' : kernelCalls opening' = [] := by
    obtain ⟨_, hnew, -⟩ := reached'
    exact hopening hnew
  simp only [kernelCalls_append, hopen, hopen', List.nil_append, Kernel.answers_append_iff]
    at answers answers' ⊢
  obtain ⟨hran, hcalls⟩ := ran_plain reached.ran
  obtain ⟨hran', hcalls'⟩ := ran_plain reached'.ran
  rw [← hcalls] at answers
  rw [← hcalls'] at answers'
  obtain ⟨htrace, hout, hshown⟩ := ran_agree rfl hran hran'
    (fun e he => by simpa [plain] using (List.mem_filter.1 he).2) same answers answers'
  rw [hcalls, hcalls'] at htrace
  refine ⟨htrace, hout, ⟨ids_of_shown hshown, live_of_shown hshown, fun id => ?_⟩, ?_⟩
  · rw [← Pool.get?_map, ← Pool.get?_map]
    exact congrArg (Pool.get? · id) hshown
  · intro closing closing' torn torn' hclosing hclosing'
    rw [← htrace] at hclosing'
    exact (teardown_agree hshown kernel _ _ _ _ _ torn torn' hclosing.2 hclosing'.2).1

/-- A world that grants every call but those to the engine. -/
def engineless : (c : Call) → c.Answer
  | .engine .describe => some "broken"
  | .engine (.importBuffer ..) => .error ⟨"import", -1, "no memory"⟩
  | .engine (.release _) | .engine (.check ..) | .engine (.fill ..) | .engine (.process ..) =>
    .error ⟨"engine", -1, "gone"⟩
  | c => granted c

/-- One buffer is created and mapped, once with an engine that fills it and
once without an engine. -/
theorem engine_has_no_influence_sample :
    let create : Operation := .create ⟨.xrgb8888, 16, 8, 4⟩ .general
    let fill : Operation := .fillRect .first ⟨0, 0, 8, 4⟩ 7
    ∃ opening history pool closing opening' history' pool' closing',
      playLife granted [create, fill, .map .first] = some (opening, history, pool, closing) ∧
      playLife engineless [create, .map .first] = some (opening', history', pool', closing') ∧
      kernelCalls (opening ++ callsOf history) = kernelCalls (opening' ++ callsOf history') := by
  intro create fill
  have hplay : (playLife granted [create, fill, .map .first]).map
      (fun life => (plain life.2.1).map (·.op)) = some [create, .map .first] := rfl
  have hplay' : (playLife engineless [create, .map .first]).map
      (fun life => (plain life.2.1).map (·.op)) = some [create, .map .first] := rfl
  obtain ⟨⟨opening, history, pool, closing⟩, hlife, hops⟩ := Option.map_eq_some_iff.1 hplay
  obtain ⟨⟨opening', history', pool', closing'⟩, hlife', hops'⟩ := Option.map_eq_some_iff.1 hplay'
  refine ⟨opening, history, pool, closing, opening', history', pool', closing', hlife, hlife', ?_⟩
  have hrule : ∀ c : Call, c.isKernel → engineless c = granted c := by
    intro c hc
    cases c <;> first | rfl | cases hc
  have answers : Kernel.Answers (fun _ => granted) []
      (kernelCalls (opening ++ callsOf history)) := by
    apply Kernel.answers_of_rule
    intro x hx
    exact answer_of_playLife hlife x (List.mem_append_left _ (List.mem_filter.1 hx).1)
  have answers' : Kernel.Answers (fun _ => granted) []
      (kernelCalls (opening' ++ callsOf history')) := by
    apply Kernel.answers_of_rule
    intro x hx
    obtain ⟨hx, hkernel⟩ := List.mem_filter.1 hx
    rw [answer_of_playLife hlife' x (List.mem_append_left _ hx)]
    exact hrule x.call hkernel
  exact (engine_has_no_influence (life_of_playLife hlife).1 (life_of_playLife hlife').1 answers
    answers' (hops.trans hops'.symm)).1

end DrmSurface.Rockchip
