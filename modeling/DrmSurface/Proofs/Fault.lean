import DrmSurface.Proofs.OneBuffer

/-!
# Failed calls and what is logged of them

A call of the device or the engine that fails should not go unnoticed.  The
programs of the drivers log each failed call at once, before they do anything
else, and the notice names the cause.

There are five groups.

* `Fault`, why a call of the device or the engine has failed, and the faults
  that notices name.
* `Reported`, the lists of calls in which every fault is named by the next call.
* The same along programs.  A program `Reports` its own faults.  A program that
  `Owes` ends with the fault of its last call, and a program that `Explains` a
  fault begins with the notice, so the one can stand before the other.
* The requests of `Device`, each of which owes its fault.
* Operations on one buffer and the release of many, for any backend.
-/

namespace DrmSurface

open Prog (Exchange)

/-! ## Faults -/

/-- Why a call of the device or the engine has failed. -/
inductive Fault where
  | kernel (cause : Errno)
  | engine (cause : EngineError)
  deriving DecidableEq

/-- An allocation may be refused only to be asked for again, which is no
failure. -/
def Request.isRetried (request : Request) (cause : Errno) : Bool :=
  match request with
  | .vmwAllocDmabuf .. => cause = .restart
  | _ => false

/-- Why a call of the device or the engine has failed, if it has. -/
def Prog.Exchange.fault? : Exchange → Option Fault
  | ⟨.ioctl request, .error cause⟩ => if request.isRetried cause then none else some (.kernel cause)
  | ⟨.map .., .error cause⟩ | ⟨.unmap _, .error cause⟩ => some (.kernel cause)
  | ⟨.engine (.importBuffer ..), .error cause⟩ | ⟨.engine (.release _), .error cause⟩
  | ⟨.engine (.check ..), .error cause⟩ | ⟨.engine (.fill ..), .error cause⟩
  | ⟨.engine (.process ..), .error cause⟩ => some (.engine cause)
  | _ => none

/-- The fault that a report of a driver names. -/
def DriverNotice.fault? : DriverNotice → Option Fault
  | allocFailed _ cause | createFailed cause | openFailed _ cause | fdSizeFailed cause
  | fdToHandleFailed cause | handleToFdFailed cause | mapOffsetFailed cause | mapFailed cause
  | mapFailedAt cause .. | unmapFailed cause | unmapOfFailed _ cause | closeFailed cause
  | freeFailed _ cause => some (.kernel cause)
  | importFailed cause | engineFailed cause => some (.engine cause)
  | _ => none

/-- The fault that a notice names. -/
def Notice.fault? : Notice → Option Fault
  | driver _ notice => notice.fault?
  | _ => none

/-- A notice that names a fault is a warning at least. -/
theorem Notice.severity_of_fault {n : Notice} {fault : Fault} (h : n.fault? = some fault) :
    n.severity = .warn ∨ n.severity = .error := by
  cases n with
  | driver backend notice =>
    cases notice <;> first | exact .inl rfl | exact .inr rfl | cases h
  | _ => cases h

/-! ## Lists of calls -/

/-- Every failed call is followed at once by a notice that names its fault. -/
inductive Reported : List Exchange → Prop where
  | nil : Reported []
  | granted {x : Exchange} {t : List Exchange} (faultless : x.fault? = none)
      (rest : Reported t) : Reported (x :: t)
  | refused {x : Exchange} {n : Notice} {t : List Exchange} {fault : Fault}
      (failed : x.fault? = some fault) (named : n.fault? = some fault) (rest : Reported t) :
      Reported (x :: ⟨.log n, ()⟩ :: t)

/-- Some calls that begin with a notice of a fault. -/
inductive Explained (fault : Fault) : List Exchange → Prop where
  | intro {n : Notice} {t : List Exchange} (named : n.fault? = some fault) (rest : Reported t) :
      Explained fault (⟨.log n, ()⟩ :: t)

section Lists

variable {x : Exchange} {t t₁ t₂ : List Exchange} {fault : Fault}

theorem Reported.append (h₁ : Reported t₁) (h₂ : Reported t₂) : Reported (t₁ ++ t₂) := by
  induction h₁ with
  | nil => exact h₂
  | granted faultless _ ih => exact .granted faultless ih
  | refused failed named _ ih => exact .refused failed named ih

theorem reported_of_faultless (h : ∀ x ∈ t, x.fault? = none) : Reported t := by
  induction t with
  | nil => exact .nil
  | cons x t ih =>
    rw [List.forall_mem_cons] at h
    exact .granted h.1 (ih h.2)

/-- The notice that names the fault of a call is the next call. -/
theorem Reported.exists_notice (h : Reported t) (hx : x ∈ t) (failed : x.fault? = some fault) :
    ∃ n, [x, ⟨.log n, ()⟩] <:+: t ∧ n.fault? = some fault := by
  induction h with
  | nil => cases hx
  | granted faultless _ ih =>
    rcases List.mem_cons.1 hx with rfl | hx
    · cases failed.symm.trans faultless
    · obtain ⟨n, hnext, hn⟩ := ih hx
      exact ⟨n, hnext.trans (List.suffix_cons ..).isInfix, hn⟩
  | @refused y n t _ failed' named _ ih =>
    rcases List.mem_cons.1 hx with rfl | hx
    · cases failed.symm.trans failed'
      exact ⟨n, (List.prefix_append [x, ⟨.log n, ()⟩] t).isInfix, named⟩
    · rcases List.mem_cons.1 hx with rfl | hx
      · -- A notice does not fail itself.
        cases failed
      · obtain ⟨n', hnext, hn⟩ := ih hx
        have hsuffix : t <:+ y :: ⟨.log n, ()⟩ :: t := List.suffix_append [y, ⟨.log n, ()⟩] t
        exact ⟨n', hnext.trans hsuffix.isInfix, hn⟩

/-- The notice accounts for the call before it. -/
theorem Explained.after (h : Explained fault t) (failed : x.fault? = some fault) :
    Reported (x :: t) := by
  obtain ⟨named, rest⟩ := h
  exact .refused failed named rest

theorem Explained.reported (h : Explained fault t) : Reported t := by
  obtain ⟨-, rest⟩ := h
  exact .granted rfl rest

theorem Explained.append (h₁ : Explained fault t₁) (h₂ : Reported t₂) :
    Explained fault (t₁ ++ t₂) := by
  obtain ⟨named, rest⟩ := h₁
  exact .intro named (rest.append h₂)

end Lists

/-! ## Programs -/

namespace Prog

variable {α β ε : Type}

/-- Every run of the program reports its faults. -/
def Reports (p : Prog α) : Prop := p.Ensures fun t _ => Reported t

/-- Every run of the program begins with a notice of the fault. -/
def Explains (fault : Fault) (p : Prog α) : Prop := p.Ensures fun t _ => Explained fault t

/-- The program reports its faults, apart from the one that it ends with, which
is left to what comes next. -/
def Owes (fault : ε → Fault) (p : Prog (Except ε α)) : Prop :=
  p.Ensures fun t outcome =>
    match outcome with
    | .ok _ => Reported t
    | .error e => ∀ t', Explained (fault e) t' → Reported (t ++ t')

variable {fault : ε → Fault}

theorem reports_pure {a : α} : (pure a : Prog α).Reports := ensures_pure_iff.2 .nil

theorem reports_of_asks {p : Prog α}
    (h : Asks (fun c => ∀ answer, Exchange.fault? ⟨c, answer⟩ = none) p) : p.Reports :=
  Ensures.mono h fun _ _ ht => reported_of_faultless fun x hx => ht x hx x.answer

/-- A call that is none of the device or the engine cannot fail. -/
theorem reports_call {c : Call} (h : ∀ answer, Exchange.fault? ⟨c, answer⟩ = none) :
    (call c).Reports :=
  reports_of_asks (asks_call h)

theorem reports_log {n : Notice} : (log n).Reports := reports_call fun _ => rfl

theorem Reports.bind {p : Prog β} {f : β → Prog α} (hp : p.Reports) (hf : ∀ b, (f b).Reports) :
    (p >>= f).Reports :=
  ensures_bind_iff.2 (hp.mono fun _ b h₁ => (hf b).mono fun _ _ h₂ => h₁.append h₂)

theorem explains_log {n : Notice} {cause : Fault} (h : n.fault? = some cause) :
    (log n).Explains cause :=
  ensures_log_iff.2 (.intro h .nil)

theorem Explains.bind {cause : Fault} {p : Prog β} {f : β → Prog α} (hp : p.Explains cause)
    (hf : ∀ b, (f b).Reports) : (p >>= f).Explains cause :=
  ensures_bind_iff.2 (hp.mono fun _ b h₁ => (hf b).mono fun _ _ h₂ => h₁.append h₂)

/-- A fault that is left is accounted for if what comes next explains it. -/
theorem Owes.bind {p : Prog (Except ε β)} {f : Except ε β → Prog α} (hp : p.Owes fault)
    (hok : ∀ b, (f (.ok b)).Reports) (herror : ∀ e, (f (.error e)).Explains (fault e)) :
    (p >>= f).Reports := by
  refine ensures_bind_iff.2 (hp.mono fun t outcome h => ?_)
  cases outcome with
  | ok b => exact (hok b).mono fun _ _ h' => h.append h'
  | error e => exact (herror e).mono fun t' _ h' => h t' h'

/-- A call whose answer is an outcome ends with its fault. -/
theorem owes_of_answer {p : Prog (Except ε α)} {x : Except ε α → Exchange}
    (hp : ∀ {P}, p.Ensures P ↔ ∀ answer, P [x answer] answer)
    (hok : ∀ a, (x (.ok a)).fault? = none)
    (herror : ∀ e, (x (.error e)).fault? = some (fault e)) : p.Owes fault :=
  hp.2 (forall_except_iff.2
    ⟨fun a => .granted (hok a) .nil, fun e _ ht' => ht'.after (herror e)⟩)

theorem Owes.logFailure {p : Prog (Except ε Unit)} {notice : ε → Notice} (hp : p.Owes fault)
    (hn : ∀ e, (notice e).fault? = some (fault e)) :
    (p >>= fun outcome => logFailure outcome notice).Reports :=
  hp.bind (fun _ => reports_pure) fun e => explains_log (hn e)

end Prog

namespace Attempt

open Prog

variable {α β ε σ : Type} {fault : ε → Fault}

theorem reports_pure {a : α} : (pure a : Attempt α).run.Reports := Prog.reports_pure

theorem reports_throw {e : DriverError} : (throw e : Attempt α).run.Reports := Prog.reports_pure

theorem reports_lift {p : Prog α} (h : p.Reports) : (liftM p : Attempt α).run.Reports :=
  ensures_lift_iff.2 h

theorem reports_bind {m : Attempt β} {f : β → Attempt α} (hm : m.run.Reports)
    (hf : ∀ b, (f b).run.Reports) : (m >>= f).run.Reports := by
  refine ensures_bind_iff.2 (hm.mono fun t outcome h => ?_)
  cases outcome with
  | ok b => exact (hf b).mono fun _ _ h' => h.append h'
  | error e => exact h

theorem reports_ofOption {value : Option α} {e : DriverError} : (ofOption value e).run.Reports :=
  reports_of_asks asks_ofOption

/-- The refusal of what is no call is a notice like others. -/
theorem reports_orRefuse {outcome : Except ε α} {notice : ε → Notice} {error : ε → DriverError} :
    (orRefuse outcome notice error).run.Reports :=
  reports_of_asks (asks_orRefuse fun _ _ => rfl)

/-- A fault that is left is accounted for by a refusal that names it. -/
theorem reports_request {p : Prog (Except ε β)} {notice : ε → Notice} {error : ε → DriverError}
    {f : β → Attempt α} (hp : p.Owes fault) (hn : ∀ e, (notice e).fault? = some (fault e))
    (hf : ∀ b, (f b).run.Reports) :
    (liftM p >>= fun outcome => orRefuse outcome notice error >>= f : Attempt α).run.Reports := by
  refine ensures_request_iff.2 (hp.mono fun t outcome h => ?_)
  cases outcome with
  | ok b => exact (hf b).mono fun _ _ h' => h.append h'
  | error e => exact h _ (.intro (hn e) .nil)

/-- The same at the end of an attempt. -/
theorem reports_refusal {p : Prog (Except ε α)} {notice : ε → Notice} {error : ε → DriverError}
    (hp : p.Owes fault) (hn : ∀ e, (notice e).fault? = some (fault e)) :
    (liftM p >>= fun outcome => orRefuse outcome notice error : Attempt α).run.Reports := by
  refine ensures_bind_iff.2 (ensures_lift_iff.2 (hp.mono fun t outcome h => ?_))
  refine ensures_orRefuse_iff.2 ?_
  cases outcome with
  | ok a => simpa using h
  | error e => exact h _ (.intro (hn e) .nil)

/-- A fault that the attempt survives is accounted for by its notice. -/
theorem reports_logFailure {p : Prog (Except ε Unit)} {notice : ε → Notice}
    {f : Unit → Attempt α} (hp : p.Owes fault) (hn : ∀ e, (notice e).fault? = some (fault e))
    (hf : ∀ u, (f u).run.Reports) :
    (liftM p >>= fun outcome => liftM (logFailure outcome notice) >>= f :
      Attempt α).run.Reports := by
  refine ensures_bind_iff.2 (ensures_lift_iff.2 (hp.mono fun t outcome h => ?_))
  refine ensures_bind_iff.2 (ensures_lift_iff.2 (ensures_logFailure_iff.2 ?_))
  cases outcome with
  | ok u => exact (hf ()).mono fun _ _ h' => h.append h'
  | error e => exact (hf ()).mono fun t' _ h' => h _ (.intro (hn e) h')

theorem reports_commit {s : σ} {m : Attempt (α × σ)} (h : m.run.Reports) :
    (commit s m).Reports := by
  refine ensures_commit_iff.2 (h.mono fun t outcome ht => ?_)
  cases outcome <;> exact ht

theorem reports_observe {s : σ} {m : Attempt α} (h : m.run.Reports) : (observe s m).Reports :=
  ensures_observe_iff.2 h

end Attempt

/-! ## Requests -/

namespace Device

open Prog

theorem owes_ioctl {request : Request} (h : ∀ cause, request.isRetried cause = false) :
    (ioctl request).Owes .kernel :=
  owes_of_answer ensures_ioctl_iff (fun _ => rfl) fun cause => by
    simp only [Exchange.fault?, h, Bool.false_eq_true, if_false]

/-- A number that is no descriptor is reported, too. -/
theorem owes_primeHandleToFd {handle : UInt32} : (primeHandleToFd handle).Owes .kernel := by
  refine ensures_primeHandleToFd_iff.2 ⟨fun _ => .granted rfl .nil, ?_, ?_⟩
  · exact fun _ _ _ ht' => .granted rfl ht'.reported
  · exact fun _ _ ht' => ht'.after rfl

/-- What the device refuses without being asked is reported, too. -/
theorem owes_map {source : MapSource} {length offset : Nat} :
    (map source length offset).Owes .kernel := by
  refine ensures_map_iff.2 ?_
  split
  · exact fun _ ht' => ht'.reported
  · split
    · exact fun _ ht' => ht'.reported
    · exact ⟨fun _ => .granted rfl .nil, fun _ _ ht' => ht'.after rfl⟩

theorem owes_unmap {m : Mapping} : (unmap m).Owes .kernel :=
  owes_of_answer ensures_unmap_iff (fun _ => rfl) fun _ => rfl

/-- An allocation fails only with an answer that does not ask for a repetition. -/
theorem owes_vmwAllocDmabuf {size : UInt32} : (vmwAllocDmabuf size).Owes .kernel := by
  intro t outcome run
  obtain ⟨n, rfl⟩ := ensures_vmwAllocDmabuf t outcome run
  have hsettled := isRestart_vmwAllocDmabuf _ outcome run
  have hretried : Reported
      (List.replicate n ⟨.ioctl (.vmwAllocDmabuf size 0), .error .restart⟩) := by
    refine reported_of_faultless fun x hx => ?_
    rw [List.eq_of_mem_replicate hx]
    rfl
  cases outcome with
  | ok reply => exact hretried.append (.granted rfl .nil)
  | error cause =>
    intro t' ht'
    have hcause : cause ≠ .restart := by simpa [isRestart] using hsettled
    rw [List.append_assoc]
    refine hretried.append (ht'.after ?_)
    simp [Exchange.fault?, Request.isRetried, hcause]

end Device

/-! ## Operations on buffers -/

namespace Pool

open Prog

variable {β : Type} {p : Pool β} {id : BufferId}

theorem unmapWith_reports {mapping? : β → Option Mapping} {unmapped : β → β}
    {notice : Errno → Notice} (hn : ∀ e, (notice e).fault? = some (.kernel e)) :
    (unmapWith mapping? unmapped notice p id).Reports := by
  unfold unmapWith
  split
  · exact reports_pure
  · split
    · exact reports_pure
    · refine Device.owes_unmap.bind (fun _ => reports_pure) fun e => ?_
      exact (explains_log (hn e)).bind fun _ => reports_pure

theorem destroyWith_reports {release : Pool β → β → Prog (Pool β)}
    (h : ∀ p b, (release p b).Reports) : (destroyWith release p id).Reports := by
  unfold destroyWith
  split
  · exact reports_pure
  · exact (h _ _).bind fun _ => reports_pure

/-- The release of many buffers reports what the release of each one reports. -/
theorem Releases.releaseAll_reports {release : Pool β → β → Prog (Pool β)}
    {releaseAll : Pool β → List β → Prog (Pool β)} (hr : Releases release releaseAll)
    (h : ∀ p b, (release p b).Reports) (p : Pool β) (bs : List β) :
    (releaseAll p bs).Reports := by
  induction bs generalizing p with
  | nil =>
    rw [hr.nil]
    exact reports_pure
  | cons b bs ih =>
    rw [hr.cons]
    exact (h p b).bind fun p' => ih p'

end Pool

end DrmSurface
