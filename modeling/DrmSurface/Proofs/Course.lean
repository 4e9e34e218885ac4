import DrmSurface.Probe.Run
import DrmSurface.Proofs.Driver

/-!
# The course of a probe

A probe creates a buffer, tries it out until a step fails, and destroys it.  What it
does with its driver is a history of a few operations, whatever the device answers.

There are three groups.

* `Driver.Performs`, which reads the runs of a program as histories of a driver.
  The other calls of the program do not reach the device.
* `Follows`: the steps of a plan are done one after another until one of them
  fails.
* `Course`, what a probe does with its driver.  `Driver.probe_course` says that every
  run takes one, and `Course.eq_ok_iff` when a probe ends well.
-/

namespace DrmSurface

open Prog

/-! ## Programs that work on a driver -/

/-- The calls that reach the device or the engine, with their answers. -/
def deviceExchanges (trace : List Exchange) : List Exchange :=
  trace.filter (·.call.isDeviceCall)

@[simp] theorem deviceExchanges_append (t₁ t₂ : List Exchange) :
    deviceExchanges (t₁ ++ t₂) = deviceExchanges t₁ ++ deviceExchanges t₂ :=
  List.filter_append ..

theorem deviceExchanges_eq_nil {t : List Exchange} (h : ∀ x ∈ t, x.call.isDeviceCall = false) :
    deviceExchanges t = [] := by
  refine List.filter_eq_nil_iff.2 fun x hx => ?_
  simp [h x hx]

/-- Other calls count nothing where only calls of the device count. -/
theorem sum_map_deviceExchanges {f : Exchange → Multiset Resource}
    (h : ∀ x, x.call.isDeviceCall = false → f x = 0) (t : List Exchange) :
    ((deviceExchanges t).map f).sum = (t.map f).sum := by
  induction t with
  | nil => rfl
  | cons x t ih =>
    rw [List.map_cons, List.sum_cons, ← ih, deviceExchanges, deviceExchanges, List.filter_cons]
    split
    · rw [List.map_cons, List.sum_cons]
    · rename_i hx
      rw [h x (by simpa using hx), zero_add]

theorem acquired_deviceExchanges (t : List Exchange) : acquired (deviceExchanges t) = acquired t :=
  sum_map_deviceExchanges (fun _ => Exchange.acquired_of_not_isDeviceCall) t

theorem released_deviceExchanges (t : List Exchange) : released (deviceExchanges t) = released t :=
  sum_map_deviceExchanges (fun _ => Exchange.released_of_not_isDeviceCall) t

namespace Driver

variable {pageSize : Nat} {α β γ : Type} {d d' : Driver}

/-- Every run of a program is a history of the driver that satisfies `P` with the
result, apart from calls that do not reach the device. -/
def Performs (pageSize : Nat) (d : Driver) (p : Prog (α × Driver))
    (P : List Episode → α → Prop) : Prop :=
  p.Ensures fun t r => ∃ episodes, Ran (perform pageSize) d episodes r.2 ∧
    deviceExchanges t = deviceExchanges (callsOf episodes) ∧ P episodes r.1

theorem performs_pure {P : List Episode → α → Prop} {a : α} (h : P [] a) :
    d.Performs pageSize (pure (a, d)) P :=
  ensures_pure_iff.2 ⟨[], .start, rfl, h⟩

theorem performs_perform (op : Operation) :
    d.Performs pageSize (d.perform pageSize op) fun episodes result =>
      ∃ t, episodes = [⟨op, t, result⟩] :=
  fun t r run => ⟨[⟨op, t, r.1⟩], Ran.step .start run, by simp, t, rfl⟩

theorem Performs.mono {p : Prog (α × Driver)} {P Q : List Episode → α → Prop}
    (h : d.Performs pageSize p P) (hPQ : ∀ episodes a, P episodes a → Q episodes a) :
    d.Performs pageSize p Q :=
  Ensures.mono h fun _ _ ⟨episodes, run, hcalls, hP⟩ =>
    ⟨episodes, run, hcalls, hPQ _ _ hP⟩

theorem Performs.bind {p : Prog (α × Driver)} {f : α × Driver → Prog (β × Driver)}
    {R : List Episode → α → Prop} {P : List Episode → β → Prop} (hp : d.Performs pageSize p R)
    (hf : ∀ earlier a d', Ran (perform pageSize) d earlier d' → R earlier a →
      d'.Performs pageSize (f (a, d')) fun later b => P (earlier ++ later) b) :
    d.Performs pageSize (p >>= f) P := by
  refine ensures_bind_iff.2 (Ensures.mono hp fun t₁ r₁ h₁ => ?_)
  obtain ⟨earlier, run₁, hcalls₁, hR⟩ := h₁
  refine Ensures.mono (hf earlier r₁.1 r₁.2 run₁ hR) fun t₂ r₂ h₂ => ?_
  obtain ⟨later, run₂, hcalls₂, hP⟩ := h₂
  refine ⟨earlier ++ later, run₁.append run₂, ?_, hP⟩
  rw [deviceExchanges_append, hcalls₁, hcalls₂, callsOf_append, deviceExchanges_append]

/-- A program may first ask something that does not reach the device. -/
theorem Performs.after {q : Prog γ} {f : γ → Prog (α × Driver)} {P : List Episode → α → Prop}
    (hq : Asks (·.isDeviceCall = false) q) (hf : ∀ c, d.Performs pageSize (f c) P) :
    d.Performs pageSize (q >>= f) P := by
  refine ensures_bind_iff.2 (Ensures.mono hq fun t₁ c h₁ =>
    Ensures.mono (hf c) fun t₂ r h₂ => ?_)
  obtain ⟨episodes, run, hcalls, hP⟩ := h₂
  exact ⟨episodes, run, by rw [deviceExchanges_append, deviceExchanges_eq_nil h₁, hcalls,
    List.nil_append], hP⟩

end Driver

/-! ## Plans -/

/-- A step of a plan: an operation, and how its failure is reported. -/
structure ProbeStep where
  op : Operation
  failure : DriverError → ProbeError

/-- The steps of a plan are done until one of them fails. -/
inductive Follows : List ProbeStep → List Episode → Except ProbeError Unit → Prop where
  | done : Follows [] [] (.ok ())
  | failed {step : ProbeStep} {plan : List ProbeStep} {t : List Exchange} {cause : DriverError} :
      Follows (step :: plan) [⟨step.op, t, .error cause⟩] (.error (step.failure cause))
  | passed {step : ProbeStep} {plan : List ProbeStep} {t : List Exchange} {a : step.op.Result}
      {episodes : List Episode} {r : Except ProbeError Unit} (later : Follows plan episodes r) :
      Follows (step :: plan) (⟨step.op, t, .ok a⟩ :: episodes) r

/-- One of the episodes has done an operation. -/
def Succeeded (episodes : List Episode) (op : Operation) : Prop :=
  ∃ t a, (⟨op, t, .ok a⟩ : Episode) ∈ episodes

namespace Follows

variable {plan plan' : List ProbeStep} {es es' : List Episode} {r : Except ProbeError Unit}
  {error : ProbeError}

theorem append (h : Follows plan es (.ok ())) (h' : Follows plan' es' r) :
    Follows (plan ++ plan') (es ++ es') r := by
  generalize hok : (.ok () : Except ProbeError Unit) = r₀ at h
  induction h with
  | done => exact h'
  | failed => cases hok
  | passed _ ih => exact .passed (ih hok)

theorem append_error (h : Follows plan es (.error error)) :
    Follows (plan ++ plan') es (.error error) := by
  generalize herror : (.error error : Except ProbeError Unit) = r₀ at h
  induction h with
  | done => cases herror
  | failed =>
    cases herror
    exact .failed
  | passed _ ih => exact .passed (ih herror)

theorem exists_step (h : Follows plan es r) : ∀ e ∈ es, ∃ step ∈ plan, e.op = step.op := by
  induction h with
  | done => simp
  | failed => simp
  | passed _ ih =>
    intro e he
    rcases List.mem_cons.1 he with rfl | he
    · exact ⟨_, List.mem_cons_self .., rfl⟩
    · obtain ⟨step, hstep, hop⟩ := ih e he
      exact ⟨step, List.mem_cons_of_mem _ hstep, hop⟩

/-- A plan is carried out if and only if each of its operations has been done. -/
theorem eq_ok_iff (h : Follows plan es r) (once : (plan.map (·.op)).Nodup) :
    r = .ok () ↔ ∀ step ∈ plan, Succeeded es step.op := by
  induction h with
  | done => simp
  | @failed step plan t cause =>
    refine iff_of_false (by simp) fun hall => ?_
    obtain ⟨t', a, hmem⟩ := hall step (List.mem_cons_self ..)
    cases List.mem_singleton.1 hmem
  | @passed step plan t a es r later ih =>
    obtain ⟨hnot, once⟩ := List.nodup_cons.1 once
    rw [ih once, List.forall_mem_cons]
    refine ⟨fun hall => ⟨⟨t, a, List.mem_cons_self ..⟩, fun s hs => ?_⟩, fun hall s hs => ?_⟩
    · obtain ⟨t', a', hmem⟩ := hall s hs
      exact ⟨t', a', List.mem_cons_of_mem _ hmem⟩
    · obtain ⟨t', a', hmem⟩ := hall.2 s hs
      rcases List.mem_cons.1 hmem with heq | hmem
      · -- The first step does another operation than the later ones.
        have hop : s.op = step.op := congrArg Episode.op heq
        exact absurd (List.mem_map.2 ⟨s, hs, hop⟩) hnot
      · exact ⟨t', a', hmem⟩

/-- A plan that is given up has failed at one of its operations. -/
theorem exists_failure (h : Follows plan es (.error error)) :
    ∃ step ∈ plan, ∃ t cause, ⟨step.op, t, .error cause⟩ ∈ es ∧ error = step.failure cause := by
  generalize herror : (.error error : Except ProbeError Unit) = r at h
  induction h with
  | done => cases herror
  | @failed step plan t cause =>
    cases herror
    exact ⟨step, List.mem_cons_self .., t, cause, List.mem_cons_self .., rfl⟩
  | passed _ ih =>
    obtain ⟨step, hstep, t, cause, hmem, herror⟩ := ih herror
    exact ⟨step, List.mem_cons_of_mem _ hstep, t, cause, List.mem_cons_of_mem _ hmem, herror⟩

end Follows

/-! ## The course of a probe -/

/-- An operation that tries out a buffer. -/
inductive Operation.Tries (id : BufferId) : Operation → Prop where
  | map : Tries id (.map id)
  | unmap : Tries id (.unmap id)
  | fillRect {rect : Rect} {color : UInt32} : Tries id (.fillRect id rect color)

namespace ProbeOptions

/-- The steps of a fill that a driver is asked for. -/
def fillPlan (capabilities : Capabilities) (id : BufferId) (size : PixelSize) (color : UInt32) :
    List ProbeStep :=
  if capabilities.contains .fillRect then
    [⟨.fillRect id (.full size.width size.height) color, .fill⟩]
  else []

/-- The steps of the mapping. -/
def mapPlan (id : BufferId) : List ProbeStep := [⟨.map id, .map⟩, ⟨.unmap id, .unmap⟩]

/-- How the options ask for a buffer to be tried out. -/
def plan (options : ProbeOptions) (capabilities : Capabilities) (id : BufferId) :
    List ProbeStep :=
  (if options.map then mapPlan id else []) ++
    match options.fillColor with
    | none => []
    | some color => fillPlan capabilities id options.size color

variable {options : ProbeOptions} {capabilities : Capabilities} {id : BufferId}

theorem forall_mem_plan_iff (P : ProbeStep → Prop) :
    (∀ step ∈ options.plan capabilities id, P step) ↔
      (options.map → P ⟨.map id, .map⟩ ∧ P ⟨.unmap id, .unmap⟩) ∧
        ∀ color, options.fillColor = some color → capabilities.contains .fillRect →
          P ⟨.fillRect id (.full options.size.width options.size.height) color, .fill⟩ := by
  simp only [plan, List.forall_mem_append]
  refine and_congr ?_ ?_
  · cases options.map <;> simp [mapPlan]
  · cases options.fillColor with
    | none => simp
    | some color => by_cases h : capabilities.contains .fillRect <;> simp [fillPlan, h]

theorem tries_of_mem_plan : ∀ step ∈ options.plan capabilities id, step.op.Tries id :=
  (forall_mem_plan_iff _).2 ⟨fun _ => ⟨.map, .unmap⟩, fun _ _ _ => .fillRect⟩

theorem nodup_plan : ((options.plan capabilities id).map (·.op)).Nodup := by
  unfold plan fillPlan mapPlan
  cases options.map <;> cases options.fillColor <;> simp <;> split <;> simp

end ProbeOptions

/-- The failure of an operation that an error of a probe reports. -/
inductive ProbeError.Of : Episode → ProbeError → Prop where
  | create {desc : SurfaceDesc} {placement : Placement} {t : List Exchange} {cause : DriverError} :
      Of ⟨.create desc placement, t, .error cause⟩ (.create cause)
  | map {id : BufferId} {t : List Exchange} {cause : DriverError} :
      Of ⟨.map id, t, .error cause⟩ (.map cause)
  | unmap {id : BufferId} {t : List Exchange} {cause : DriverError} :
      Of ⟨.unmap id, t, .error cause⟩ (.unmap cause)
  | fill {id : BufferId} {rect : Rect} {color : UInt32} {t : List Exchange} {cause : DriverError} :
      Of ⟨.fillRect id rect color, t, .error cause⟩ (.fill cause)

/-- What a probe does with its driver.  Without a buffer there is nothing to do; a
buffer is tried out and then destroyed. -/
inductive Course (options : ProbeOptions) (capabilities : Capabilities) :
    List Episode → Except ProbeError Unit → Prop where
  | refused {t : List Exchange} {cause : DriverError} :
      Course options capabilities [⟨.create options.desc options.placement, t, .error cause⟩]
        (.error (.create cause))
  | gone {t t' : List Exchange} {id : BufferId} {es : List Episode} {r : Except ProbeError Unit}
      (tried : Follows (options.plan capabilities id) es r) :
      Course options capabilities
        (⟨.create options.desc options.placement, t, .ok id⟩ :: es ++ [⟨.destroy id, t', .ok ()⟩]) r
  | left {t t' : List Exchange} {id : BufferId} {es : List Episode} {r : Except ProbeError Unit}
      {cause : DriverError} (tried : Follows (options.plan capabilities id) es r) :
      Course options capabilities
        (⟨.create options.desc options.placement, t, .ok id⟩ :: es ++
          [⟨.destroy id, t', .error cause⟩]) (.error (.destroy cause))

theorem Operation.Tries.idle {e : Episode} {id : BufferId} (h : e.op.Tries id) :
    e.created? = none ∧ e.acquired = acquired e.trace := by
  obtain ⟨op, t, result⟩ := e
  cases h <;> exact ⟨rfl, rfl⟩

namespace Course

variable {options : ProbeOptions} {capabilities : Capabilities} {es : List Episode}
  {r : Except ProbeError Unit} {id : BufferId} {error : ProbeError}

theorem tries_of_follows (h : Follows (options.plan capabilities id) es r) :
    ∀ e ∈ es, e.op.Tries id := by
  intro e he
  obtain ⟨step, hmem, hop⟩ := h.exists_step e he
  exact hop ▸ ProbeOptions.tries_of_mem_plan step hmem

/-- Only the first operation of a probe creates anything, and a probe takes over
nothing from its caller. -/
theorem exists_cons (h : Course options capabilities es r) : ∃ first rest, es = first :: rest ∧
    first.acquired = acquired first.trace ∧
    ∀ e ∈ rest, e.created? = none ∧ e.acquired = acquired e.trace := by
  have htried : ∀ {id es r t result}, Follows (options.plan capabilities id) es r →
      ∀ e ∈ es ++ [(⟨.destroy id, t, result⟩ : Episode)],
        e.created? = none ∧ e.acquired = acquired e.trace := by
    intro id es r t result follows e he
    rcases List.mem_append.1 he with he | he
    · exact (tries_of_follows follows e he).idle
    · cases List.mem_singleton.1 he
      exact ⟨rfl, rfl⟩
  cases h with
  | refused => exact ⟨_, [], rfl, rfl, by simp⟩
  | gone tried | left tried => exact ⟨_, _, rfl, rfl, htried tried⟩

theorem of_follows (h : Follows (options.plan capabilities id) es (.error error)) :
    ∃ e ∈ es, error.Of e := by
  have hplan : ∀ step ∈ options.plan capabilities id, ∀ t cause,
      (step.failure cause).Of ⟨step.op, t, .error cause⟩ :=
    (ProbeOptions.forall_mem_plan_iff _).2
      ⟨fun _ => ⟨fun _ _ => .map, fun _ _ => .unmap⟩, fun _ _ _ _ _ => .fill⟩
  obtain ⟨step, hmem, t, cause, he, rfl⟩ := h.exists_failure
  exact ⟨_, he, hplan step hmem t cause⟩

/-- The error of a probe is that of the operation that has failed. -/
theorem exists_failure (h : Course options capabilities es (.error error))
    (clean : ∀ cause, error ≠ .destroy cause) : ∃ e ∈ es, error.Of e := by
  cases h with
  | refused => exact ⟨_, List.mem_singleton_self _, .create⟩
  | gone follows =>
    obtain ⟨e, he, hof⟩ := of_follows follows
    exact ⟨e, by simp [he], hof⟩
  | left _ => exact absurd rfl (clean _)

/-- A probe ends well if and only if it has created a buffer and done with it what was
asked for. -/
theorem eq_ok_iff (h : Course options capabilities es r)
    (clean : ∀ cause, r ≠ .error (.destroy cause)) :
    r = .ok () ↔ ∃ t id, ⟨.create options.desc options.placement, t, .ok id⟩ ∈ es ∧
      (options.map → Succeeded es (.map id) ∧ Succeeded es (.unmap id)) ∧
      ∀ color, options.fillColor = some color → capabilities.contains .fillRect →
        Succeeded es (.fillRect id (.full options.size.width options.size.height) color) := by
  cases h with
  | refused =>
    refine iff_of_false (by simp) ?_
    rintro ⟨t, id, hmem, -⟩
    cases List.mem_singleton.1 hmem
  | left _ => exact absurd rfl (clean _)
  | @gone t t' id tried r follows =>
    have htries := tries_of_follows follows
    -- The first and the last operation do not try out the buffer.
    have hinner : ∀ op : Operation, op.Tries id →
        (Succeeded (⟨.create options.desc options.placement, t, .ok id⟩ :: tried ++
          [⟨.destroy id, t', .ok ()⟩]) op ↔ Succeeded tried op) := by
      intro op hop
      refine exists_congr fun t₀ => exists_congr fun a => ?_
      cases hop <;> simp
    rw [follows.eq_ok_iff ProbeOptions.nodup_plan]
    constructor
    · intro hall
      refine ⟨t, id, by simp,
        (ProbeOptions.forall_mem_plan_iff fun step => Succeeded _ step.op).1 fun step hmem => ?_⟩
      exact (hinner _ (ProbeOptions.tries_of_mem_plan step hmem)).2 (hall step hmem)
    · rintro ⟨t₀, id₀, hmem, hall⟩ step hstep
      obtain rfl : id₀ = id := by
        simp only [List.cons_append, List.mem_cons, List.mem_append, List.not_mem_nil,
          or_false] at hmem
        rcases hmem with hfirst | htried | hlast
        · cases hfirst
          rfl
        · cases htries _ htried
        · cases hlast
      have hdone := (ProbeOptions.forall_mem_plan_iff fun step => Succeeded _ step.op).2 hall
      exact (hinner _ (ProbeOptions.tries_of_mem_plan step hstep)).1 (hdone step hstep)

end Course

namespace Driver

variable {pageSize : Nat} {d d' : Driver} {id : BufferId} {options : ProbeOptions}

theorem capabilities_of_ran {history : List Episode} (run : Ran (perform pageSize) d history d') :
    d'.capabilities = d.capabilities := by
  induction run with
  | start => rfl
  | step _ now ih =>
    rw [← ih]
    rcases step_cases now with ⟨_, _, rfl, rfl, -⟩ | ⟨_, _, rfl, rfl, -⟩ <;> rfl

theorem fillRows_asks (row : Nat) (rows : List Span) :
    Asks (·.isDeviceCall = false) (fillRows row rows) := by
  induction rows generalizing row with
  | nil => exact asks_pure
  | cons line rows ih => exact Asks.bind (asks_call rfl) fun _ => ih (row + 1)

theorem drawPattern_asks (s : Surface) : Asks (·.isDeviceCall = false) (drawPattern s) := by
  unfold drawPattern
  split
  · exact asks_pure
  · exact fillRows_asks _ _

/-- A mapping that has been made is taken back. -/
theorem unmap_follows {t : List Exchange} {start : Address} :
    d.Performs pageSize (do
      let (unmapped, d) ← d.perform pageSize (.unmap id)
      return (unmapped.mapError .unmap, d)) fun later r =>
        Follows (ProbeOptions.mapPlan id) (⟨.map id, t, .ok start⟩ :: later) r := by
  refine (performs_perform _).bind fun later unmapped d₁ _ h => performs_pure ?_
  obtain ⟨t', rfl⟩ := h
  cases unmapped with
  | error cause => exact .passed .failed
  | ok _ => exact .passed (.passed .done)

theorem tryMap_follows :
    d.Performs pageSize (tryMap pageSize d id) (Follows (ProbeOptions.mapPlan id)) := by
  refine (performs_perform _).bind fun earlier mapped d₁ _ h => ?_
  obtain ⟨t, rfl⟩ := h
  cases mapped with
  | error cause => exact performs_pure .failed
  | ok start =>
    refine .after (asks_call rfl) fun _ => ?_
    dsimp only
    split
    · exact .after (drawPattern_asks _) fun _ => unmap_follows
    · exact unmap_follows

theorem tryFill_follows {size : PixelSize} {color : UInt32} :
    d.Performs pageSize (tryFill pageSize d id size color)
      (Follows (ProbeOptions.fillPlan d.capabilities id size color)) := by
  unfold tryFill ProbeOptions.fillPlan
  split
  · refine (performs_perform _).bind fun earlier filled d₁ _ h => ?_
    obtain ⟨t, rfl⟩ := h
    cases filled with
    | error cause => exact performs_pure .failed
    | ok _ => exact .after (asks_call rfl) fun _ => performs_pure (.passed .done)
  · exact .after (asks_log fun _ => rfl) fun _ => performs_pure .done

/-- What comes after the mapping depends on how that went. -/
theorem fill_follows {mapping : List ProbeStep} {earlier : List Episode}
    {mapped : Except ProbeError Unit} (run : Ran (perform pageSize) d earlier d')
    (h : Follows mapping earlier mapped) :
    d'.Performs pageSize
      (match mapped, options.fillColor with
        | .error e, _ => pure (.error e, d')
        | .ok _, none => pure (.ok (), d')
        | .ok _, some color => tryFill pageSize d' id options.size color) fun later r =>
      Follows (mapping ++ match options.fillColor with
        | none => []
        | some color => ProbeOptions.fillPlan d.capabilities id options.size color)
        (earlier ++ later) r := by
  cases mapped with
  | error e => exact performs_pure (by simpa using h.append_error)
  | ok _ =>
    cases options.fillColor with
    | none => exact performs_pure (h.append .done)
    | some color =>
      rw [← capabilities_of_ran run]
      exact tryFill_follows.mono fun _ _ => h.append

theorem exercise_follows :
    d.Performs pageSize (exercise pageSize d id options)
      (Follows (options.plan d.capabilities id)) := by
  unfold exercise ProbeOptions.plan
  split
  · exact tryMap_follows.bind fun _ _ _ run h => fill_follows run h
  · exact fill_follows .start .done

/-- A buffer that has been created is tried out and destroyed. -/
theorem tried_course (d : Driver) (options : ProbeOptions) (t : List Exchange)
    (id : (Operation.create options.desc options.placement).Result) :
    d.Performs pageSize (do
      let (outcome, d) ← exercise pageSize d id options
      let (destroyed, d) ← d.perform pageSize (.destroy id)
      match destroyed with
      | .error e => return (.error (.destroy e), d)
      | .ok _ => return (outcome, d)) fun later r => Course options d.capabilities
        (⟨.create options.desc options.placement, t, .ok id⟩ :: later) r := by
  refine exercise_follows.bind fun es outcome d₁ _ tried => ?_
  refine (performs_perform _).bind fun later destroyed d₂ _ h => ?_
  obtain ⟨t', rfl⟩ := h
  cases destroyed with
  | error cause => exact performs_pure (by simpa using Course.left tried)
  | ok _ => exact performs_pure (by simpa using Course.gone tried)

/-- A probe takes one of its courses, whatever the device answers. -/
theorem probe_course :
    d.Performs pageSize (probe pageSize d options) (Course options d.capabilities) := by
  refine (performs_perform _).bind fun earlier created d₁ run h => ?_
  obtain ⟨t, rfl⟩ := h
  cases created with
  | error cause => exact performs_pure .refused
  | ok id =>
    rw [← capabilities_of_ran run]
    dsimp only
    split
    · exact .after (asks_call rfl) fun _ => tried_course d₁ options t id
    · exact tried_course d₁ options t id

end Driver

end DrmSurface
