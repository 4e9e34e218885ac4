import DrmSurface.Proofs.Handles
import DrmSurface.Proofs.Rockchip.Calls
import DrmSurface.Proofs.Rockchip.Change

/-!
# Whose handle is whose

A buffer of the Rockchip driver owns the handle of its object: the driver
closes the handle when the buffer is destroyed.  Two buffers can come to own
one handle only by an import, since the driver does not look whether a handle
that it imports is that of one of its buffers.

There are four groups.

* Calls that are not about handles.
* What each operation does about handles.  `Handling` lists all that can
  happen, and `perform_handling` says that nothing else does.
* `Exclusive`, the invariant: no two buffers have one handle, and the handle of
  each buffer is open.  `Exclusive.step` keeps it as long as no handle of a
  buffer is imported.
* `handles_not_shared`, for all histories, and `handle_shared_after_import`.
-/

namespace DrmSurface

open Prog (Exchange)

/-! ## Calls that are not about handles -/

/-- A request by which a handle is opened or closed. -/
def Call.isHandleRequest : Call → Bool
  | .ioctl (.rockchipGemCreate ..) | .ioctl (.vmwAllocDmabuf ..) | .ioctl (.gemOpen _)
  | .ioctl (.primeFdToHandle ..) | .ioctl (.gemClose _) | .ioctl (.vmwUnrefDmabuf _) => true
  | _ => false

theorem handleEvents_eq_nil {t : List Exchange} (h : ∀ x ∈ t, x.call.isHandleRequest = false) :
    handleEvents t = [] := by
  refine List.filterMap_eq_nil_iff.2 fun x hx => ?_
  have hx := h x hx
  obtain ⟨c, answer⟩ := x
  cases c with
  | ioctl request =>
    cases request with
    | versionLength | versionName | primeHandleToFd | rockchipGemMapOffset => rfl
    | _ => cases hx
  | _ => rfl

theorem Call.not_isHandleRequest_of_wraps {c : Call} (h : c.wraps) :
    c.isHandleRequest = false := by
  cases c with
  | ioctl request => cases request <;> simp [wraps, isHandleRequest] at h ⊢
  | _ => rfl

theorem Call.not_isHandleRequest_of_maps {c : Call} (h : c.maps) : c.isHandleRequest = false := by
  cases c with
  | ioctl request => cases request <;> simp [maps, isHandleRequest] at h ⊢
  | _ => rfl

theorem Call.not_isHandleRequest_of_detaches {c : Call} (h : c.detaches) :
    c.isHandleRequest = false := by
  cases c with
  | ioctl request => cases h
  | _ => rfl

theorem Call.not_isHandleRequest_of_exports {c : Call} (h : c.exports) :
    c.isHandleRequest = false := by
  cases c with
  | ioctl request => cases request <;> simp [exports, isHandleRequest] at h ⊢
  | _ => rfl

theorem Call.not_isHandleRequest_of_composes {c : Call} (h : c.composes ∨ c.isNotice) :
    c.isHandleRequest = false := by
  cases c with
  | ioctl request => rcases h with h | h <;> cases h
  | _ => rfl

namespace Rockchip

open Prog
open Attempt hiding asks_pure ensures_bind_iff ensures_pure_iff

variable {pool pool' : State} {id : BufferId} {b : Buffer} {ok : Call → Prop}

/-- A program that makes no request about handles shows nothing about them. -/
theorem handleEvents_of_asks {α : Type} {p : Prog α} (h : Asks ok p)
    (hok : ∀ c, ok c → c.isHandleRequest = false) : p.Ensures fun t _ => handleEvents t = [] :=
  fun t a run => handleEvents_eq_nil fun x hx => hok _ (h t a run x hx)

/-! ## Operations -/

/-- What an operation does to the pool, and what it shows about handles. -/
inductive Handling (pool : State) : List HandleEvent → State → Prop where
  | idle : Handling pool [] pool
  /-- A handle becomes that of a new buffer. -/
  | taken {event : HandleEvent} {b : Buffer} (h : event.opened? = some b.surface.handle) :
      Handling pool [event] (pool.add b)
  /-- An object is too small. -/
  | returned {handle : UInt32} : Handling pool [.granted handle, .closed handle] pool
  /-- The same, and the device does not take the object back. -/
  | kept {handle : UInt32} : Handling pool [.granted handle] pool
  | remapped {id : BufferId} {b b' : Buffer} (found : pool.get? id = some b)
      (same : b'.surface.handle = b.surface.handle) : Handling pool [] (pool.set id b')
  | closed {id : BufferId} {b : Buffer} (found : pool.get? id = some b) :
      Handling pool [.closed b.surface.handle] (pool.erase id).freed
  /-- A buffer is destroyed, and the device does not take its object back. -/
  | lost {id : BufferId} {b : Buffer} (found : pool.get? id = some b) :
      Handling pool [] (pool.erase id)

variable {desc : SurfaceDesc} {g : Geometry} {pitch : UInt32} {size? : Option Nat}

theorem wrap_handle (b : Buffer) :
    (wrap b).Ensures fun _ b' => b'.surface.handle = b.surface.handle := by
  rw [wrap, ensures_bind_iff]
  refine (share_ensures b).mono fun _ b₁ h₁ => (importView_surface b₁).mono fun _ b₂ h₂ => ?_
  rw [h₂, h₁]

/-- A new buffer has the handle of its origin. -/
theorem admitted_handling {origin : Origin} :
    (admitted pool origin desc g).Ensures fun t r =>
      handleEvents t = [] ∧ ∃ b, r.2 = pool.add b ∧ b.surface.handle = origin.handle := by
  have hbuffer : (admitted pool origin desc g).Ensures fun _ r =>
      ∃ b, r.2 = pool.add b ∧ b.surface.handle = origin.handle := by
    simp only [admitted, ensures_bind_iff, ensures_log_iff, ensures_pure_iff]
    exact (wrap_handle _).mono fun _ b hb => ⟨b, rfl, hb⟩
  intro t r run
  exact ⟨handleEvents_of_asks admitted_asks (fun _ => Call.not_isHandleRequest_of_wraps) t r run,
    hbuffer t r run⟩

/-- A handle that comes in becomes that of a new buffer. -/
theorem handling_of_admitted {origin : Origin} {event : HandleEvent} {t t' : List Exchange}
    {pool' : State} (ht : handleEvents t = [event])
    (hopened : event.opened? = some origin.handle)
    (h : handleEvents t' = [] ∧ ∃ b, pool' = pool.add b ∧ b.surface.handle = origin.handle) :
    Handling pool (handleEvents (t ++ t')) pool' := by
  obtain ⟨ht', b, rfl, hb⟩ := h
  rw [handleEvents_append, ht, ht']
  exact .taken (by rw [hopened, hb])

theorem create_handling {placement : Placement} :
    (commit pool (create pool desc placement)).Ensures fun t r =>
      Handling pool (handleEvents t) r.2 := by
  rw [ensures_commit_iff, create, ensures_refuse_iff]
  cases Geometry.compute .rockchip desc with
  | error e => exact .idle
  | ok g =>
    refine ensures_request_iff.2 (Device.ensures_ioctl_iff.2 (forall_except_iff.2 ⟨?_, ?_⟩))
    · intro handle
      exact ensures_lift_iff.2 (admitted_handling.mono fun _ _ h => handling_of_admitted rfl rfl h)
    · exact fun e => .idle

theorem importHandle_handling {handle : UInt32} :
    (commit pool (importHandle pool handle size? desc pitch)).Ensures fun t r =>
      handleEvents t = [] ∧ match r.1 with
        | .ok _ => ∃ b, r.2 = pool.add b ∧ b.surface.handle = handle
        | .error _ => r.2 = pool := by
  rw [ensures_commit_iff, importHandle, validated, ensures_refuse_iff]
  cases Geometry.validate .rockchip desc pitch size? with
  | error e => exact ⟨rfl, rfl⟩
  | ok g => exact ensures_lift_iff.2 admitted_handling

theorem importName_handling {name : UInt32} :
    (commit pool (importName pool name desc pitch)).Ensures fun t r =>
      Handling pool (handleEvents t) r.2 := by
  rw [ensures_commit_iff, importName, validated, ensures_refuse_iff]
  cases Geometry.validate .rockchip desc pitch none with
  | error e => exact .idle
  | ok g =>
    refine ensures_request_iff.2 (Device.ensures_ioctl_iff.2 (forall_except_iff.2 ⟨?_, ?_⟩))
    · intro object
      dsimp only
      split
      · simp only [Attempt.ensures_bind_iff, ensures_lift_iff, ensures_log_iff]
        refine Device.ensures_ioctl_iff.2 fun closed => ensures_logFailure_iff.2 ?_
        cases closed with
        | ok _ => exact ensures_throw_iff.2 .returned
        | error e => exact ensures_throw_iff.2 .kept
      · exact ensures_lift_iff.2
          (admitted_handling.mono fun _ _ h => handling_of_admitted rfl rfl h)
    · exact fun e => .idle

theorem openPrime_handling {fd : Descriptor} :
    (openPrime fd size? desc pitch).run.Ensures fun t outcome =>
      match outcome with
      | .ok opened => handleEvents t = [.found opened.2]
      | .error _ => handleEvents t = [] := by
  refine ensures_request_iff.2 (ensures_call_iff.2 (forall_except_iff.2 ⟨?_, ?_⟩))
  · intro fileSize
    refine Attempt.ensures_bind_iff.2 (ensures_lift_iff.2 (ensures_log_iff.2 ?_))
    dsimp only
    split
    · refine Attempt.ensures_bind_iff.2 (ensures_lift_iff.2 (ensures_log_iff.2 ?_))
      exact ensures_throw_iff.2 rfl
    · refine ensures_refuse_iff.2 ?_
      cases Geometry.validate .rockchip desc pitch (some (size?.getD fileSize)) with
      | error e => rfl
      | ok g =>
        refine ensures_request_iff.2 (Device.ensures_ioctl_iff.2 (forall_except_iff.2 ⟨?_, ?_⟩))
        · exact fun handle => Attempt.ensures_pure_iff.2 rfl
        · exact fun e => rfl
  · exact fun e => rfl

theorem importPrime_handling {fd : Descriptor} :
    (importPrime pool fd size? desc pitch).Ensures fun t r =>
      Handling pool (handleEvents t) r.2 := by
  refine ensures_bind_iff.2 (openPrime_handling.mono fun t outcome h => ?_)
  cases outcome with
  | error e =>
    refine ensures_bind_iff.2 (ensures_call_iff.2 fun _ => ensures_pure_iff.2 ?_)
    rw [handleEvents_append, h]
    exact .idle
  | ok opened =>
    refine ensures_bind_iff.2 (admitted_handling.mono fun t' r h' => ensures_pure_iff.2 ?_)
    rw [List.append_nil]
    exact handling_of_admitted h rfl h'

/-- A buffer that is released asks for its own handle to be closed. -/
theorem release_closes :
    Asks (fun c => c.isHandleRequest → c = .ioctl (.gemClose b.surface.handle))
      (release pool b) := by
  have hdetaches : ∀ c : Call, c.detaches →
      c.isHandleRequest → c = .ioctl (.gemClose b.surface.handle) := by
    intro c hc hrequest
    rw [Call.not_isHandleRequest_of_detaches hc] at hrequest
    cases hrequest
  refine (releaseMapping_asks.mono hdetaches).bind fun _ => ?_
  refine (releaseView_asks.mono hdetaches).bind fun _ => ?_
  refine (releasePrime_asks.mono hdetaches).bind fun _ => ?_
  refine Asks.bind (asks_call fun _ => rfl) fun answer => ?_
  cases answer <;> exact Asks.bind (asks_log fun _ h => by cases h) fun _ => asks_pure

theorem release_handling :
    (release pool b).Ensures fun t pool' =>
      handleEvents t = [.closed b.surface.handle] ∧ pool' = pool.freed ∨
        handleEvents t = [] ∧ pool' = pool := by
  have hquiet : ∀ {p : Prog Unit}, Asks (·.detaches) p → p.Ensures fun t _ => handleEvents t = [] :=
    fun h => handleEvents_of_asks h fun _ => Call.not_isHandleRequest_of_detaches
  refine ensures_bind_iff.2 ((hquiet releaseMapping_asks).mono fun t₁ _ h₁ => ?_)
  refine ensures_bind_iff.2 ((hquiet releaseView_asks).mono fun t₂ _ h₂ => ?_)
  refine ensures_bind_iff.2 ((hquiet releasePrime_asks).mono fun t₃ _ h₃ => ?_)
  have hlast : ∀ t, handleEvents (t₁ ++ (t₂ ++ (t₃ ++ t))) = handleEvents t := by
    intro t
    simp [h₁, h₂, h₃]
  refine ensures_bind_iff.2 (Device.ensures_ioctl_iff.2 (forall_except_iff.2 ⟨?_, ?_⟩))
  · exact fun _ => ensures_bind_iff.2 (ensures_log_iff.2 (ensures_pure_iff.2 (.inl ⟨hlast _, rfl⟩)))
  · exact fun _ => ensures_bind_iff.2 (ensures_log_iff.2 (ensures_pure_iff.2 (.inr ⟨hlast _, rfl⟩)))

theorem destroy_handling :
    (destroy pool id).Ensures fun t r => Handling pool (handleEvents t) r.2 := by
  unfold destroy
  split
  · exact ensures_pure_iff.2 .idle
  · rename_i b found
    refine ensures_bind_iff.2 (release_handling.mono fun t pool' h => ensures_pure_iff.2 ?_)
    rw [List.append_nil]
    rcases h with ⟨ht, rfl⟩ | ⟨ht, rfl⟩
    · rw [ht]
      exact .closed found
    · rw [ht]
      exact .lost found

/-- Destroying a buffer asks for no handle to be closed but that of the
buffer, which is gone then. -/
theorem destroy_closes :
    (destroy pool id).Ensures fun t r =>
      ∀ x ∈ t, ∀ handle, x.call = .ioctl (.gemClose handle) →
        r.2.get? id = none ∧ ∃ b, pool.get? id = some b ∧ b.surface.handle = handle := by
  unfold destroy
  split
  · exact ensures_pure_iff.2 fun x hx => by cases hx
  · rename_i b found
    refine ensures_bind_iff.2 fun t pool' run => ensures_pure_iff.2 fun x hx handle hcall => ?_
    rw [List.append_nil] at hx
    have hclose := release_closes t pool' run x hx (by rw [hcall]; rfl)
    have hgone : pool'.get? id = none := by
      rcases release_ensures t pool' run with ⟨rfl, -⟩ | ⟨rfl, -⟩ <;> simp
    rw [hcall] at hclose
    cases hclose
    exact ⟨hgone, b, found, rfl⟩

/-- What is left are operations that change mappings at most. -/
theorem handling_of_turnover {e : Episode}
    (turn : Pool.Turnover Admitted Remapped pool none none pool')
    (hquiet : ∀ x ∈ e.trace, x.call.isHandleRequest = false)
    (hop : e.handleEvents = handleEvents e.trace) : Handling pool e.handleEvents pool' := by
  rw [hop, handleEvents_eq_nil hquiet]
  cases turn with
  | kept => exact .idle
  | altered found halt => exact .remapped found (by rw [halt])

theorem perform_handling {e : Episode} (h : Step perform pool e pool') :
    Handling pool e.handleEvents pool' := by
  have hturn := perform_turnover h
  obtain ⟨op, trace, result⟩ := e
  cases op with
  | create desc placement => exact create_handling _ _ h
  | importHandle handle size? desc pitch =>
    obtain ⟨ht, hr⟩ := importHandle_handling _ _ h
    cases result with
    | ok id =>
      obtain ⟨b, hb, hhandle⟩ := hr
      obtain rfl : pool' = pool.add b := hb
      simp only [Episode.handleEvents, ht]
      exact .taken (congrArg some hhandle.symm)
    | error e =>
      obtain rfl : pool' = pool := hr
      simp only [Episode.handleEvents, ht]
      exact .idle
  | importName name desc pitch => exact importName_handling _ _ h
  | importPrime fd size? desc pitch => exact importPrime_handling _ _ h
  | destroy id => exact destroy_handling _ _ h
  | map id =>
    refine handling_of_turnover hturn (fun x hx => ?_) rfl
    exact Call.not_isHandleRequest_of_maps (asks_commit map_asks _ _ h x hx)
  | unmap id =>
    refine handling_of_turnover hturn (fun x hx => ?_) rfl
    exact Call.not_isHandleRequest_of_maps (unmap_asks _ _ h x hx)
  | exportPrime id =>
    refine handling_of_turnover hturn (fun x hx => ?_) rfl
    exact Call.not_isHandleRequest_of_exports (asks_observe exportPrime_asks _ _ h x hx)
  | flush =>
    obtain ⟨rfl, heq⟩ := runs_done_iff.1 h
    cases heq
    exact .idle
  | fillRect | checkBlit | blit | copy | rotate | flip =>
    obtain rfl : pool' = pool := (run_of_observe h).2
    refine handling_of_turnover .kept (fun x hx => ?_) rfl
    exact Call.not_isHandleRequest_of_composes (accelerated_asks rfl _ _ h x hx)

/-! ## The invariant -/

/-- No two buffers have one handle, and the handle of each buffer is open. -/
structure Exclusive (pool : State) (handles : Finset UInt32) : Prop where
  distinct : ∀ {id id' b b'}, pool.get? id = some b → pool.get? id' = some b' →
    b.surface.handle = b'.surface.handle → id = id'
  isOpen : ∀ {id b}, pool.get? id = some b → b.surface.handle ∈ handles

/-- A handle is that of no buffer. -/
def Unowned (pool : State) (handle : UInt32) : Prop :=
  ∀ id b, pool.get? id = some b → b.surface.handle ≠ handle

variable {handles handles' : Finset UInt32} {events past : List HandleEvent}

theorem exclusive_empty : Exclusive ∅ handles where
  distinct h := by cases h
  isOpen h := by cases h

/-- Buffers may go, and handles may be closed that are those of no buffer. -/
theorem Exclusive.of_subset (h : Exclusive pool handles)
    (hold : ∀ {id b'}, pool'.get? id = some b' → b'.surface.handle ∈ handles' ∧
      ∃ b, pool.get? id = some b ∧ b'.surface.handle = b.surface.handle) :
    Exclusive pool' handles' where
  distinct := by
    intro id₁ id₂ b₁ b₂ h₁ h₂ heq
    obtain ⟨-, a₁, ha₁, hsame₁⟩ := hold h₁
    obtain ⟨-, a₂, ha₂, hsame₂⟩ := hold h₂
    exact h.distinct ha₁ ha₂ (hsame₁.symm.trans (heq.trans hsame₂))
  isOpen hb := (hold hb).1

theorem Exclusive.unowned (h : Exclusive pool handles) {handle : UInt32} (hnot : handle ∉ handles) :
    Unowned pool handle := by
  rintro id b hb rfl
  exact hnot (h.isOpen hb)

theorem Exclusive.add (h : Exclusive pool handles) (hnew : Unowned pool b.surface.handle) :
    Exclusive (pool.add b) (insert b.surface.handle handles) where
  distinct := by
    intro id₁ id₂ b₁ b₂ h₁ h₂ heq
    rw [Pool.get?_add] at h₁ h₂
    split at h₁ <;> split at h₂
    · simp [*]
    · cases h₁
      exact absurd heq.symm (hnew id₂ b₂ h₂)
    · cases h₂
      exact absurd heq (hnew id₁ b₁ h₁)
    · exact h.distinct h₁ h₂ heq
  isOpen := by
    intro id₁ b₁ h₁
    rw [Pool.get?_add] at h₁
    split at h₁
    · cases h₁
      exact Finset.mem_insert_self _ _
    · exact Finset.mem_insert_of_mem (h.isOpen h₁)

/-- The invariant is kept if the device grants a handle that is not open, and
if no other handle that comes in is that of a buffer. -/
theorem Exclusive.step (h : Exclusive pool (openHandles past)) (now : Handling pool events pool')
    (fresh : ∀ within handle rest, events = within ++ .granted handle :: rest →
      handle ∉ openHandles (past ++ within))
    (unowned : ∀ handle, .found handle ∈ events ∨ .received handle ∈ events →
      Unowned pool handle) : Exclusive pool' (openHandles (past ++ events)) := by
  cases now with
  | idle => rwa [List.append_nil]
  | @taken event b hopened =>
    have hnew : Unowned pool b.surface.handle := by
      cases event with
      | granted handle =>
        cases hopened
        have hnot := fresh [] _ [] rfl
        rw [List.append_nil] at hnot
        exact h.unowned hnot
      | found handle =>
        cases hopened
        exact unowned _ (.inl (List.mem_singleton_self _))
      | received handle =>
        cases hopened
        exact unowned _ (.inr (List.mem_singleton_self _))
      | closed handle => cases hopened
    rw [openHandles_concat, HandleEvent.apply_of_opened? hopened]
    exact h.add hnew
  | @returned handle =>
    have hnot := fresh [] handle [.closed handle] rfl
    rw [List.append_nil] at hnot
    rw [List.append_cons, openHandles_concat, openHandles_concat]
    refine h.of_subset fun {id b} hb => ⟨?_, b, hb, rfl⟩
    exact Finset.mem_erase.2 ⟨h.unowned hnot id b hb, Finset.mem_insert_of_mem (h.isOpen hb)⟩
  | kept =>
    rw [openHandles_concat]
    exact h.of_subset fun {id b} hb => ⟨Finset.mem_insert_of_mem (h.isOpen hb), b, hb, rfl⟩
  | @remapped id b b' found same =>
    rw [List.append_nil]
    refine h.of_subset fun {id' c} hc => ?_
    rw [Pool.get?_set] at hc
    split at hc
    · rename_i hid
      cases hc
      rw [same, hid]
      exact ⟨h.isOpen found, b, found, rfl⟩
    · exact ⟨h.isOpen hc, c, hc, rfl⟩
  | @closed id b found =>
    rw [openHandles_concat]
    refine h.of_subset fun {id' c} hc => ?_
    rw [Pool.get?_freed, Pool.get?_erase] at hc
    split at hc
    · cases hc
    · rename_i hne
      have hother : c.surface.handle ≠ b.surface.handle :=
        fun heq => hne (h.distinct hc found heq)
      exact ⟨Finset.mem_erase.2 ⟨hother, h.isOpen hc⟩, c, hc, rfl⟩
  | @lost id b found =>
    rw [List.append_nil]
    refine h.of_subset fun {id' c} hc => ?_
    rw [Pool.get?_erase] at hc
    split at hc
    · cases hc
    · exact ⟨h.isOpen hc, c, hc, rfl⟩

/-! ## Histories -/

/-- No handle that is imported, by itself or by a descriptor, is that of a
buffer at that time. -/
def Unshared (history : List Episode) : Prop :=
  ∀ before e after s, history = before ++ e :: after → Ran perform ∅ before s →
    ∀ handle, .found handle ∈ e.handleEvents ∨ .received handle ∈ e.handleEvents →
      Unowned s handle

theorem Unshared.of_append {h₁ h₂ : List Episode} (unshared : Unshared (h₁ ++ h₂)) :
    Unshared h₁ := by
  intro before e after s h hran
  exact unshared before e (after ++ h₂) s (by simp [h]) hran

theorem unshared_nil : Unshared [] := by
  intro before e after s h
  simp at h

theorem Unshared.concat {history : List Episode} {s : State} {e : Episode}
    (unshared : Unshared history) (run : Ran perform ∅ history s)
    (h : ∀ handle, .found handle ∈ e.handleEvents ∨ .received handle ∈ e.handleEvents →
      Unowned s handle) : Unshared (history ++ [e]) := by
  intro before e' after s' heq hran
  rcases List.eq_nil_or_concat' after with rfl | ⟨after, y, rfl⟩
  · obtain ⟨rfl, hlast⟩ := List.append_inj' heq rfl
    obtain rfl : e = e' := by simpa using hlast
    obtain rfl := run.unique hran
    exact h
  · rw [← List.cons_append, ← List.append_assoc] at heq
    exact unshared before e' after s' (List.append_inj' heq rfl).1 hran

theorem exclusive_of_ran {history : List Episode} (run : Ran perform ∅ history pool)
    (fresh : Fresh history) (unshared : Unshared history) :
    Exclusive pool (openHandles (handleEventsOf history)) := by
  induction run with
  | start => exact exclusive_empty
  | @step history s s' e before now ih =>
    have hbefore := ih fresh.of_append unshared.of_append
    rw [handleEventsOf_append, handleEventsOf_singleton]
    refine hbefore.step (perform_handling now) (fun _ _ _ => fresh.last) ?_
    exact unshared history e [] s rfl before

/-- If the device grants no handle that is open, and no handle of a buffer is
imported again, then no two buffers have one handle, the handle of each buffer
is open, and to destroy a buffer closes the handle of no other one. -/
theorem handles_not_shared {opening : List Exchange} {history : List Episode}
    (reached : Reached opening history pool) (fresh : Fresh history) (unshared : Unshared history) :
    (∀ id id' b b', pool.get? id = some b → pool.get? id' = some b' →
      b.surface.handle = b'.surface.handle → id = id') ∧
    (∀ id b, pool.get? id = some b → b.surface.handle ∈ openHandles (handleEventsOf history)) ∧
    ∀ id t result pool', Step perform pool ⟨.destroy id, t, result⟩ pool' →
      ∀ x ∈ t, ∀ handle, x.call = .ioctl (.gemClose handle) → Unowned pool' handle := by
  have exclusive := exclusive_of_ran reached.ran fresh unshared
  refine ⟨fun _ _ _ _ => exclusive.distinct, fun _ _ => exclusive.isOpen, ?_⟩
  rintro id t result pool' now x hx handle hcall id' b' hb' rfl
  obtain ⟨hgone, b, hb, hhandle⟩ := destroy_closes t _ now x hx _ hcall
  have hbefore : ∃ b₀, pool.get? id' = some b₀ ∧ b'.surface.handle = b₀.surface.handle := by
    rcases (perform_change now).get?_cases hb' with ⟨hcreated, -⟩ | ⟨b₀, hb₀, rfl | hsame⟩
    · cases hcreated
    · exact ⟨b', hb₀, rfl⟩
    · exact ⟨b₀, hb₀, by rw [hsame]⟩
  obtain ⟨b₀, hb₀, hsame⟩ := hbefore
  obtain rfl := exclusive.distinct hb hb₀ (hhandle.trans hsame)
  have hnone : pool'.get? id = none := hgone
  rw [hnone] at hb'
  cases hb'

theorem unowned_of_values {handle : UInt32}
    (h : handle ∉ pool.buffers.values.map (·.surface.handle)) : Unowned pool handle := by
  rintro id b hb rfl
  have hmem : b ∈ pool.buffers.values :=
    (SortedMap.values_perm_erase hb).mem_iff.2 List.mem_cons_self
  exact h (List.mem_map_of_mem hmem)

/-- A name, a handle and a descriptor are imported one after another. -/
theorem handles_not_shared_sample :
    ∃ opening history pool, Reached opening history pool ∧ Fresh history ∧ Unshared history ∧
      handleEventsOf history = [.granted 3, .received 9, .found 12] ∧
      ∀ id id' b b', pool.get? id = some b → pool.get? id' = some b' →
        b.surface.handle = b'.surface.handle → id = id' := by
  have hnew : new.play granted = some (_, ∅) := rfl
  have hplay : (do
      let (t₁, r₁, s₁) ← (perform ∅ (.importName 3 ⟨.xrgb8888, 0, 32, 32⟩ 128)).play granted
      let (t₂, r₂, s₂) ← (perform s₁ (.importHandle 9 none ⟨.xrgb8888, 0, 8, 4⟩ 32)).play granted
      let (t₃, r₃, s₃) ←
        (perform s₂ (.importPrime ⟨12⟩ none ⟨.xrgb8888, 0, 32, 32⟩ 128)).play granted
      return (handleEvents t₁, Episode.handleEvents ⟨_, t₂, r₂⟩, handleEvents t₃,
        s₁.buffers.values.map (·.surface.handle), s₂.buffers.values.map (·.surface.handle))) =
      some ([.granted 3], [.received 9], [.found 12], [3], [3, 9]) := rfl
  simp only [Option.bind_eq_bind, Option.bind_eq_some_iff, Prod.exists] at hplay
  obtain ⟨t₁, r₁, s₁, h₁, t₂, r₂, s₂, h₂, t₃, r₃, s₃, h₃, heq⟩ := hplay
  obtain ⟨hgranted, hreceived, hfound, howned₁, howned₂⟩ := by
    simpa only [Option.pure_def, Option.some.injEq, Prod.mk.injEq] using heq
  obtain ⟨e₁, now₁, he₁⟩ : ∃ e, Step perform ∅ e s₁ ∧ e.handleEvents = [.granted 3] :=
    ⟨⟨_, t₁, r₁⟩, runs_of_play h₁, hgranted⟩
  obtain ⟨e₂, now₂, he₂⟩ : ∃ e, Step perform s₁ e s₂ ∧ e.handleEvents = [.received 9] :=
    ⟨⟨_, t₂, r₂⟩, runs_of_play h₂, hreceived⟩
  obtain ⟨e₃, now₃, he₃⟩ : ∃ e, Step perform s₂ e s₃ ∧ e.handleEvents = [.found 12] :=
    ⟨⟨_, t₃, r₃⟩, runs_of_play h₃, hfound⟩
  have run₁ := Ran.start.step now₁
  have run₂ := run₁.step now₂
  have unshared₁ := unshared_nil.concat .start (e := e₁) fun handle h => by
    simp [he₁] at h
  have unshared₂ := unshared₁.concat run₁ (e := e₂) fun handle h => by
    obtain rfl : handle = 9 := by simpa [he₂] using h
    exact unowned_of_values (by simp [howned₁])
  have unshared₃ := unshared₂.concat run₂ (e := e₃) fun handle h => by
    obtain rfl : handle = 12 := by simpa [he₃] using h
    exact unowned_of_values (by simp [howned₂])
  have reached : Reached _ ([] ++ [e₁] ++ [e₂] ++ [e₃]) s₃ :=
    ⟨∅, runs_of_play hnew, run₂.step now₃⟩
  have hevents : handleEventsOf ([] ++ [e₁] ++ [e₂] ++ [e₃]) =
      [.granted 3, .received 9, .found 12] := by
    simp [handleEventsOf, he₁, he₂, he₃]
  have fresh := fresh_of_events hevents (by simp)
  exact ⟨_, _, s₃, reached, fresh, unshared₃, hevents,
    (handles_not_shared reached fresh unshared₃).1⟩

/-- The device of one object.  It grants the object a handle, and it finds the
object by the same handle. -/
def oneObject : (c : Call) → c.Answer
  | .ioctl (.rockchipGemCreate ..) => .ok 7
  | .ioctl (.primeFdToHandle ..) => .ok 7
  | c => granted c

/-- A buffer is exported and imported again.  Then two buffers have its handle,
and to destroy one of them closes the handle of the other one. -/
theorem handle_shared_after_import :
    ∃ opening history pool b b' t pool', Reached opening history pool ∧ Fresh history ∧
      pool.get? .first = some b ∧ pool.get? BufferId.first.next = some b' ∧
      b.surface.handle = b'.surface.handle ∧
      Step perform pool ⟨.destroy .first, t, .ok ()⟩ pool' ∧
      .closed b'.surface.handle ∈ handleEvents t ∧ pool'.get? BufferId.first.next = some b' := by
  have hnew : new.play oneObject = some (_, ∅) := rfl
  have hplay : (do
      let past ← playAll perform oneObject ∅ [.create ⟨.xrgb8888, 0, 32, 32⟩ .general,
        .exportPrime .first, .importPrime ⟨8⟩ none ⟨.xrgb8888, 0, 32, 32⟩ 128]
      let b ← past.2.get? .first
      let b' ← past.2.get? BufferId.first.next
      let freed ← (perform past.2 (.destroy .first)).play oneObject
      return (handleEventsOf past.1, b.surface.handle, b'.surface.handle, handleEvents freed.1,
        freed.2.1, decide (freed.2.2.get? BufferId.first.next = some b'))) =
      some ([.granted 7, .found 7], 7, 7, [.closed 7], .ok (), true) := rfl
  simp only [Option.bind_eq_bind, Option.bind_eq_some_iff, Prod.exists] at hplay
  obtain ⟨history, pool, hhistory, b, hb, b', hb', t, result, pool', hdestroy, heq⟩ := hplay
  obtain ⟨hevents, hhandle, hhandle', hclosed, hok, hkept⟩ := by
    simpa only [Option.pure_def, Option.some.injEq, Prod.mk.injEq] using heq
  subst hok
  refine ⟨_, history, pool, b, b', t, pool', ⟨∅, runs_of_play hnew, ran_of_playAll hhistory⟩,
    fresh_of_events hevents (by simp), hb, hb', by rw [hhandle, hhandle'],
    runs_of_play hdestroy, ?_, of_decide_eq_true hkept⟩
  rw [hclosed, hhandle']
  exact List.mem_singleton_self _

end Rockchip

end DrmSurface
