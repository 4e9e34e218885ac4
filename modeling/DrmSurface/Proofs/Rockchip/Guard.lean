import DrmSurface.Proofs.Geometry
import DrmSurface.Proofs.Rockchip.Calls
import DrmSurface.Proofs.Rockchip.Change

/-!
# What the engine is asked to do

The engine is asked for a composition only about buffers of the pool and only
inside their pixels, and it is told to run one only after a check.

There are six groups.

* `Covers`, which ties the view and the rectangle of a request to a buffer.
* `Allowed`, what a call has to fulfil when it is made, and `Guarded`, the
  same for all calls of an operation.
* Attempts that ask for nothing, about modes or about one buffer.
* The operations of the engine.  `ensures_checkBlit` lists the ways in which a
  check can end.  All operations but the run of a prepared blit bring their
  check along; `Ready` is what such a blit has to rely on.
* Prepared blits stay ready, since a buffer keeps its view, its size and its
  id as long as it lives.
* `Life.allowed`, for all calls of a life.
-/

namespace DrmSurface

/-- The buffer that an operation of the engine reads. -/
def Operation.source? : Operation → Option BufferId
  | .checkBlit src .. | .copy src _ | .rotate src .. | .flip src .. => some src
  | .blit prepared => some prepared.src
  | _ => none

/-- The buffer that an operation of the engine writes. -/
def Operation.target? : Operation → Option BufferId
  | .fillRect id .. => some id
  | .checkBlit _ _ dst .. | .copy _ dst | .rotate _ dst _ | .flip _ dst _ => some dst
  | .blit prepared => some prepared.dst
  | _ => none

namespace Rockchip

open Prog
open Attempt hiding asks_pure ensures_bind_iff ensures_pure_iff

/-! ## Views and rectangles -/

/-- A rectangle lies in the pixels of a buffer. -/
def Inside (b : Buffer) (r : EngineRect) : Prop :=
  r.Inside b.surface.width b.surface.height b.surface.geometry.headerRows

/-- A view shows the buffer with an id, apart from an alpha for this request,
and a rectangle lies in the pixels of the buffer. -/
def Covers (pool : State) (id? : Option BufferId) (view : EngineView) (rect : EngineRect) :
    Prop :=
  ∃ id b, id? = some id ∧ pool.get? id = some b ∧ b.view = some { view with alpha := none } ∧
    Inside b rect

/-! ## Guards -/

/-- A check that the engine has passed. -/
def passed (src : Option EngineView) (dst : EngineView) (srcRect dstRect : EngineRect)
    (usage : Usage) : Exchange :=
  ⟨.engine (.check src dst srcRect dstRect usage), .ok ()⟩

/-- What a call has to fulfil, given the calls before it and those of them
that the same operation has made. -/
def Allowed (pool : State) (op : Operation) (past within : List Exchange) (x : Exchange) :
    Prop :=
  match x.call with
  | .engine (.check src dst srcRect dstRect _) =>
    (∀ view, src = some view → Covers pool op.source? view srcRect) ∧
      Covers pool op.target? dst dstRect
  | .engine (.fill dst rect color) =>
    (∃ id target, op = .fillRect id target color) ∧
      passed none dst .zero rect .colorFill ∈ within ∧ Covers pool op.target? dst rect
  | .engine (.process src dst srcRect dstRect _ usage) =>
    passed (some src) dst srcRect dstRect usage ∈ past ∧
      Covers pool op.source? src srcRect ∧ Covers pool op.target? dst dstRect
  | _ => True

/-- Every call of an operation is allowed when it is made. -/
def Guarded (pool : State) (op : Operation) (past within : List Exchange) :
    List Exchange → Prop
  | [] => True
  | x :: t => Allowed pool op past within x ∧ Guarded pool op (past ++ [x]) (within ++ [x]) t

variable {pool pool' : State} {op : Operation} {past within : List Exchange} {b : Buffer}
  {id : BufferId}

theorem Guarded.split {t : List Exchange} (h : Guarded pool op past within t)
    {before after : List Exchange} {x : Exchange} (ht : t = before ++ x :: after) :
    Allowed pool op (past ++ before) (within ++ before) x := by
  induction before generalizing past within t with
  | nil =>
    subst ht
    rw [List.append_nil, List.append_nil]
    exact h.1
  | cons y before ih =>
    subst ht
    have hrest := ih h.2 rfl
    rwa [List.append_assoc, List.append_assoc] at hrest

/-- A request that is refused is followed by a notice. -/
theorem guarded_refused {x : Exchange} {n : Notice} (hx : Allowed pool op past within x) :
    Guarded pool op past within ([x] ++ [⟨.log n, ()⟩]) :=
  ⟨hx, trivial, trivial⟩

/-! ## Attempts that ask for nothing -/

theorem engineRect_quiet {rect : Rect} : (engineRect b rect).Quiet (Inside b) := by
  unfold engineRect
  split
  · rename_i hfits
    exact quiet_ofOption.mono fun r hr => Rect.inside_of_toEngine? hfits hr
  · exact quiet_throw

theorem wholeRect_quiet : (wholeRect b).Quiet (Inside b) :=
  quiet_ofOption.mono fun _ hr => Rect.inside_of_toEngine? Rect.fitsWithin_full hr

theorem translated_quiet {ops : BlitOps} :
    (translated ops).Quiet fun words => translate ops = .ok words := by
  unfold translated
  split
  · rename_i words hwords
    exact quiet_pure hwords
  · exact quiet_throw

theorem viewed_quiet : (viewed b).Quiet fun view => b.view = some view := quiet_ofOption

theorem covers_of_view {view : EngineView} {rect : EngineRect} (sound : Sound id b)
    (hget : pool.get? id = some b) (hview : b.view = some view) (inside : Inside b rect) :
    Covers pool (some id) view rect := by
  refine ⟨id, b, rfl, hget, ?_, inside⟩
  rw [hview, sound.view_eq hview]
  rfl

/-- The alpha of a request does not matter. -/
theorem Covers.withAlpha {id? : Option BufferId} {view : EngineView} {rect : EngineRect}
    (h : Covers pool id? view rect) (alpha : Option UInt8) :
    Covers pool id? { view with alpha } rect := h

/-- What every buffer of the pool fulfils. -/
def AllSound (pool : State) : Prop := ∀ {id b}, pool.get? id = some b → Sound id b

theorem wholePair_quiet (sound : AllSound pool) {src dst : BufferId} :
    (wholePair pool src dst).Quiet fun pair =>
      Covers pool (some src) pair.srcView pair.srcRect ∧
        Covers pool (some dst) pair.dstView pair.dstRect := by
  apply quiet_ofOption.bind
  intro source hsource
  apply quiet_ofOption.bind
  intro target htarget
  apply viewed_quiet.bind
  intro srcView hsrcView
  apply viewed_quiet.bind
  intro dstView hdstView
  apply wholeRect_quiet.bind
  intro srcRect hsrcRect
  refine wholeRect_quiet.bind fun dstRect hdstRect => quiet_pure ⟨?_, ?_⟩
  · exact covers_of_view (sound hsource) hsource hsrcView hsrcRect
  · exact covers_of_view (sound htarget) htarget hdstView hdstRect

/-! ## Operations -/

theorem fillRect_guarded (sound : AllSound pool) {rect : Rect} {color : UInt32} :
    (fillRect pool id rect color).run.Ensures fun t _ =>
      Guarded pool (.fillRect id rect color) past [] t := by
  refine ensures_bind_of_quiet quiet_ofOption (fun b hb => ?_) fun _ => trivial
  refine ensures_bind_of_quiet viewed_quiet (fun view hview => ?_) fun _ => trivial
  refine ensures_bind_of_quiet engineRect_quiet (fun target inside => ?_) fun _ => trivial
  have hcovers : Covers pool (some id) view target := covers_of_view (sound hb) hb hview inside
  have hcheck : ∀ answer, Allowed pool (.fillRect id rect color) past []
      ⟨.engine (.check none view .zero target .colorFill), answer⟩ :=
    fun _ => ⟨fun v hv => (by cases hv), hcovers⟩
  refine ensures_request_iff.2 (ensures_call_iff.2 (forall_except_iff.2 ⟨?_, ?_⟩))
  · rintro ⟨⟩
    refine Attempt.ensures_bind_iff.2 (ensures_lift_iff.2 (ensures_call_iff.2 fun answer => ?_))
    have hfill : ∀ answer, Allowed pool (.fillRect id rect color)
        (past ++ [passed none view .zero target .colorFill])
        [passed none view .zero target .colorFill] ⟨.engine (.fill view target color), answer⟩ :=
      fun _ => ⟨⟨id, rect, rfl⟩, List.mem_singleton_self _, hcovers⟩
    refine ensures_orRefuse_iff.2 ?_
    cases answer with
    | ok _ => exact ⟨hcheck _, hfill _, trivial⟩
    | error e => exact ⟨hcheck _, hfill _, trivial, trivial⟩
  · exact fun e => guarded_refused (hcheck _)

theorem processWhole_guarded {pair : WholePair} {usage : Usage}
    (hsrc : Covers pool op.source? pair.srcView pair.srcRect)
    (hdst : Covers pool op.target? pair.dstView pair.dstRect) :
    (processWhole pair usage).run.Ensures fun t _ => Guarded pool op past [] t := by
  have hcheck : ∀ answer, Allowed pool op past []
      ⟨.engine (.check (some pair.srcView) pair.dstView pair.srcRect pair.dstRect usage),
        answer⟩ := by
    refine fun _ => ⟨fun view hview => ?_, hdst⟩
    cases hview
    exact hsrc
  refine ensures_request_iff.2 (ensures_call_iff.2 (forall_except_iff.2 ⟨?_, ?_⟩))
  · rintro ⟨⟩
    refine Attempt.ensures_bind_iff.2 (ensures_lift_iff.2 (ensures_call_iff.2 fun answer => ?_))
    have hprocess : ∀ answer within, Allowed pool op
        (past ++ [passed (some pair.srcView) pair.dstView pair.srcRect pair.dstRect usage]) within
        ⟨.engine (.process pair.srcView pair.dstView pair.srcRect pair.dstRect {} usage),
          answer⟩ :=
      fun _ _ => ⟨List.mem_append_right _ (List.mem_singleton_self _), hsrc, hdst⟩
    refine ensures_orRefuse_iff.2 ?_
    cases answer with
    | ok _ => exact ⟨hcheck _, hprocess _ _, trivial⟩
    | error e => exact ⟨hcheck _, hprocess _ _, trivial, trivial⟩
  · exact fun e => guarded_refused (hcheck _)

/-- An operation that is refused before it asks for anything. -/
theorem guarded_ite {c : Prop} [Decidable c] {m : Attempt Unit} {error : DriverError}
    (h : m.run.Ensures fun t _ => Guarded pool op past [] t) :
    (if c then m else throw error).run.Ensures fun t _ => Guarded pool op past [] t := by
  split
  · exact h
  · exact ensures_throw_iff.2 trivial

theorem copy_guarded (sound : AllSound pool) {src dst : BufferId} :
    (copy pool src dst).run.Ensures fun t _ => Guarded pool (.copy src dst) past [] t := by
  refine ensures_bind_of_quiet (wholePair_quiet sound) (fun pair hpair => ?_) fun _ => trivial
  exact guarded_ite (processWhole_guarded hpair.1 hpair.2)

theorem rotate_guarded (sound : AllSound pool) {src dst : BufferId} {turn : CopyOp} :
    (rotate pool src dst turn).run.Ensures fun t _ =>
      Guarded pool (.rotate src dst turn) past [] t := by
  refine ensures_bind_of_quiet (wholePair_quiet sound) (fun pair hpair => ?_) fun _ => trivial
  exact guarded_ite (guarded_ite (processWhole_guarded hpair.1 hpair.2))

theorem flip_guarded (sound : AllSound pool) {src dst : BufferId} {turn : CopyOp} :
    (flip pool src dst turn).run.Ensures fun t _ =>
      Guarded pool (.flip src dst turn) past [] t := by
  refine ensures_bind_of_quiet (wholePair_quiet sound) (fun pair hpair => ?_) fun _ => trivial
  exact guarded_ite (guarded_ite (processWhole_guarded hpair.1 hpair.2))

/-- A blit that the driver has put together, with the buffers that it is about:
they have views, and the rectangles lie in their pixels. -/
structure Formed (pool : State) (prepared : PreparedBlit) (source target : Buffer)
    (srcView dstView : EngineView) : Prop where
  source_eq : pool.get? prepared.src = some source
  target_eq : pool.get? prepared.dst = some target
  srcView_eq : source.view = some srcView
  dstView_eq : target.view = some dstView
  source_inside : Inside source prepared.srcRect
  target_inside : Inside target prepared.dstRect

/-- A check is refused without a call, or it puts a blit together and asks the
engine about it. -/
theorem ensures_checkBlit {src dst : BufferId} {srcRect dstRect : Rect} {ops : BlitOps}
    {P : List Exchange → Except DriverError PreparedBlit → Prop}
    (hrefused : ∀ e, P [] (.error e))
    (hformed : ∀ prepared source target srcView dstView, prepared.src = src →
      prepared.dst = dst → prepared.alpha = alphaOf ops.alpha →
      translate ops = .ok (prepared.usage, prepared.options) →
      Formed pool prepared source target srcView dstView →
      P [passed (some { srcView with alpha := prepared.alpha }) dstView prepared.srcRect
          prepared.dstRect prepared.usage] (.ok prepared) ∧
        ∀ e, P ([⟨.engine (.check (some { srcView with alpha := prepared.alpha }) dstView
          prepared.srcRect prepared.dstRect prepared.usage), .error e⟩] ++
            [⟨.log (notice (.engineFailed e)), ()⟩]) (.error (.engine e))) :
    (checkBlit pool src srcRect dst dstRect ops).run.Ensures P := by
  refine ensures_bind_of_quiet translated_quiet (fun words hwords => ?_) hrefused
  refine ensures_bind_of_quiet quiet_ofOption (fun source hsource => ?_) hrefused
  refine ensures_bind_of_quiet quiet_ofOption (fun target htarget => ?_) hrefused
  refine ensures_bind_of_quiet viewed_quiet (fun srcView hsrcView => ?_) hrefused
  refine ensures_bind_of_quiet viewed_quiet (fun dstView hdstView => ?_) hrefused
  refine ensures_bind_of_quiet engineRect_quiet (fun r hr => ?_) hrefused
  refine ensures_bind_of_quiet engineRect_quiet (fun r' hr' => ?_) hrefused
  obtain ⟨hpassed, hfailed⟩ := hformed
    { src, dst, srcRect := r, dstRect := r', usage := words.1, options := words.2
      alpha := alphaOf ops.alpha } source target srcView dstView rfl rfl rfl hwords
    ⟨hsource, htarget, hsrcView, hdstView, hr, hr'⟩
  refine ensures_request_iff.2 (ensures_call_iff.2 (forall_except_iff.2 ⟨?_, hfailed⟩))
  exact fun _ => Attempt.ensures_pure_iff.2 hpassed

/-- A blit that has been checked by a call of `t`. -/
structure Prepared (pool : State) (t : List Exchange) (prepared : PreparedBlit)
    (source target : Buffer) (srcView dstView : EngineView) : Prop
    extends Formed pool prepared source target srcView dstView where
  passed_mem : passed (some { srcView with alpha := prepared.alpha }) dstView prepared.srcRect
    prepared.dstRect prepared.usage ∈ t

theorem checkBlit_guarded (past : List Exchange) (sound : AllSound pool) {src dst : BufferId}
    {srcRect dstRect : Rect} {ops : BlitOps} :
    (checkBlit pool src srcRect dst dstRect ops).run.Ensures fun t outcome =>
      Guarded pool (.checkBlit src srcRect dst dstRect ops) past [] t ∧
        ∀ prepared, outcome = .ok prepared → ∃ source target srcView dstView,
          Prepared pool t prepared source target srcView dstView := by
  refine ensures_checkBlit (fun _ => ⟨trivial, fun _ he => by cases he⟩) ?_
  rintro prepared source target srcView dstView rfl rfl - - formed
  have hsrc : Covers pool (some prepared.src) { srcView with alpha := prepared.alpha }
      prepared.srcRect :=
    (covers_of_view (sound formed.source_eq) formed.source_eq formed.srcView_eq
      formed.source_inside).withAlpha _
  have hdst : Covers pool (some prepared.dst) dstView prepared.dstRect :=
    covers_of_view (sound formed.target_eq) formed.target_eq formed.dstView_eq
      formed.target_inside
  have hcheck : ∀ answer,
      Allowed pool (.checkBlit prepared.src srcRect prepared.dst dstRect ops) past []
        ⟨.engine (.check (some { srcView with alpha := prepared.alpha }) dstView prepared.srcRect
          prepared.dstRect prepared.usage), answer⟩ := by
    refine fun _ => ⟨fun view hview => ?_, hdst⟩
    cases hview
    exact hsrc
  refine ⟨⟨⟨hcheck _, trivial⟩, fun p hp => ?_⟩, fun e => ⟨guarded_refused (hcheck _), ?_⟩⟩
  · cases hp
    exact ⟨source, target, srcView, dstView, formed, List.mem_singleton_self _⟩
  · exact fun _ he => by cases he

/-- A prepared blit may be run if its buffers are still there: the check of
these views and rectangles has passed, and the rectangles lie inside. -/
def Ready (pool : State) (past : List Exchange) (prepared : PreparedBlit) : Prop :=
  ∀ source target srcView dstView, pool.get? prepared.src = some source →
    pool.get? prepared.dst = some target → source.view = some srcView →
    target.view = some dstView → Prepared pool past prepared source target srcView dstView

theorem blit_guarded (sound : AllSound pool) {prepared : PreparedBlit}
    (ready : Ready pool past prepared) :
    (blit pool prepared).run.Ensures fun t _ => Guarded pool (.blit prepared) past [] t := by
  refine ensures_bind_of_quiet quiet_ofOption (fun source hsource => ?_) fun _ => trivial
  refine ensures_bind_of_quiet viewed_quiet (fun srcView hsrcView => ?_) fun _ => trivial
  refine ensures_bind_of_quiet quiet_ofOption (fun target htarget => ?_) fun _ => trivial
  refine ensures_bind_of_quiet viewed_quiet (fun dstView hdstView => ?_) fun _ => trivial
  obtain ⟨⟨-, -, -, -, hr, hr'⟩, hpassed⟩ :=
    ready source target srcView dstView hsource htarget hsrcView hdstView
  have hsrc : Covers pool (some prepared.src) { srcView with alpha := prepared.alpha }
      prepared.srcRect :=
    (covers_of_view (sound hsource) hsource hsrcView hr).withAlpha _
  have hdst : Covers pool (some prepared.dst) dstView prepared.dstRect :=
    covers_of_view (sound htarget) htarget hdstView hr'
  have hprocess : ∀ answer, Allowed pool (.blit prepared) past []
      ⟨.engine (.process { srcView with alpha := prepared.alpha } dstView prepared.srcRect
        prepared.dstRect prepared.options prepared.usage), answer⟩ :=
    fun _ => ⟨hpassed, hsrc, hdst⟩
  refine Attempt.ensures_bind_iff.2 (ensures_lift_iff.2 (ensures_call_iff.2 fun answer => ?_))
  refine ensures_orRefuse_iff.2 ?_
  cases answer with
  | ok _ => exact ⟨hprocess _, trivial⟩
  | error e => exact guarded_refused (hprocess _)

theorem perform_guarded {e : Episode} (sound : AllSound pool) (h : Step perform pool e pool')
    (hop : e.op.isAccelerated)
    (ready : ∀ prepared, e.op = .blit prepared → Ready pool past prepared) :
    Guarded pool e.op past [] e.trace := by
  obtain ⟨op, trace, result⟩ := e
  cases op with
  | fillRect id rect color => exact fillRect_guarded sound _ _ (run_of_observe h).1
  | checkBlit src srcRect dst dstRect ops =>
    exact (checkBlit_guarded past sound _ _ (run_of_observe h).1).1
  | blit prepared => exact blit_guarded sound (ready prepared rfl) _ _ (run_of_observe h).1
  | copy src dst => exact copy_guarded sound _ _ (run_of_observe h).1
  | rotate src dst turn => exact rotate_guarded sound _ _ (run_of_observe h).1
  | flip src dst turn => exact flip_guarded sound _ _ (run_of_observe h).1
  | _ => cases hop

/-! ## Prepared blits stay ready -/

theorem Remapped.inside_iff {b' : Buffer} (h : Remapped b b') {r : EngineRect} :
    Inside b' r ↔ Inside b r := by
  rw [h]
  rfl

theorem Prepared.ready {t : List Exchange} {prepared : PreparedBlit} {n : Nat}
    {between : List Episode} {source target : Buffer} {srcView dstView : EngineView}
    (h : Prepared pool t prepared source target srcView dstView) (hpool : pool.Numbered n)
    (run : Ran perform pool between pool') (few : n + creations between ≤ BufferId.count)
    (hpast : ∀ x ∈ t, x ∈ past) : Ready pool' past prepared := by
  intro source' target' srcView' dstView' hsource htarget hsrcView hdstView
  have hs := remapped_of_ran run hpool few h.source_eq hsource
  have ht := remapped_of_ran run hpool few h.target_eq htarget
  rw [hs.view_eq, h.srcView_eq] at hsrcView
  rw [ht.view_eq, h.dstView_eq] at hdstView
  cases hsrcView
  cases hdstView
  exact {
    source_eq := hsource
    target_eq := htarget
    srcView_eq := hs.view_eq.trans h.srcView_eq
    dstView_eq := ht.view_eq.trans h.dstView_eq
    source_inside := hs.inside_iff.2 h.source_inside
    target_inside := ht.inside_iff.2 h.target_inside
    passed_mem := hpast _ h.passed_mem }

theorem ready_of_mem {opening : List Exchange} {history : List Episode} {e : Episode}
    {prepared : PreparedBlit} (reached : Reached opening history pool)
    (few : creations history ≤ BufferId.count) (he : e ∈ history)
    (hprepared : e.prepared? = some prepared) :
    Ready pool (opening ++ callsOf history) prepared := by
  obtain ⟨before, after, rfl⟩ := List.append_of_mem he
  obtain ⟨start, hnew, hran⟩ := id reached
  obtain ⟨s₁, s₂, hbefore, hnow, hafter⟩ := hran.split rfl
  have hreached : Reached opening before s₁ := ⟨start, hnew, hbefore⟩
  simp only [creations_append, creations_cons] at few
  obtain ⟨op, trace, result⟩ := e
  cases op with
  | checkBlit src srcRect dst dstRect ops =>
    cases result with
    | error e => cases hprepared
    | ok p =>
      obtain rfl : p = prepared := Option.some.inj hprepared
      obtain ⟨hrun, rfl⟩ := run_of_observe hnow
      obtain ⟨source, target, srcView, dstView, h⟩ : ∃ source target srcView dstView,
          Prepared s₂ trace p source target srcView dstView :=
        (checkBlit_guarded [] hreached.sound _ _ hrun).2 p rfl
      apply h.ready (hreached.numbered (by omega)) hafter (by omega)
      intro x hx
      simp [callsOf, hx]
  | _ => cases hprepared

/-! ## Calls of a life -/

/-- A call of a life and what it was made for: the operation, the calls of
the operation before it, and the pool at that time. -/
def MadeIn (history : List Episode) (past : List Exchange) (x : Exchange) (e : Episode)
    (within : List Exchange) (pool : State) : Prop :=
  ∃ opening before after rest, history = before ++ e :: after ∧ e.trace = within ++ x :: rest ∧
    past = opening ++ callsOf before ++ within ∧ Reached opening before pool ∧
    Step perform pool e pool

variable {history : List Episode} {calls future : List Exchange} {x : Exchange}

private theorem madeIn_aux {opening closing : List Exchange}
    (reached : Reached opening history pool)
    (hclosing : ∀ y ∈ closing, y.call.composes = false)
    (h : opening ++ callsOf history ++ closing = past ++ x :: future) (hx : x.call.composes) :
    ∃ e within s, MadeIn history past x e within s ∧ e.op.isAccelerated := by
  obtain ⟨start, hnew, hran⟩ := reached
  have hopening := new_asks _ _ hnew
  rcases append_eq_append_cons h with ⟨rest, hlife⟩ | ⟨past', -, hclose⟩
  · rcases append_eq_append_cons hlife with ⟨rest, hopen⟩ | ⟨past', rfl, hcalls⟩
    · have hno : x.call.composes = false := hopening x (by simp [hopen])
      simp [hno] at hx
    · obtain ⟨before, e, after, within, rest, hhistory, htrace, rfl⟩ := callsOf_split hcalls
      obtain ⟨s₁, s₂, hbefore, hnow, -⟩ := hran.split hhistory
      have hop : e.op.isAccelerated := by
        by_contra hplain
        have hno := plain_asks (by simpa using hplain) _ _ hnow x (by simp [htrace])
        simp [hno] at hx
      obtain rfl : s₂ = s₁ := pool_eq_of_isAccelerated hnow hop
      refine ⟨e, within, s₂, ⟨opening, before, after, rest, hhistory, htrace, ?_, ?_, hnow⟩, hop⟩
      · rw [List.append_assoc]
      · exact ⟨start, hnew, hbefore⟩
  · have hno : x.call.composes = false := hclosing x (by simp [hclose])
    simp [hno] at hx

/-- Every composition of a life is asked for by an operation of the engine. -/
theorem Life.madeIn (life : Life history calls) (h : calls = past ++ x :: future)
    (hx : x.call.composes) :
    ∃ e within s, MadeIn history past x e within s ∧ e.op.isAccelerated := by
  cases life with
  | going reached =>
    have hnil : ∀ y ∈ ([] : List Exchange), y.call.composes = false := fun y hy => by cases hy
    rw [← List.append_nil (_ ++ callsOf history)] at h
    exact madeIn_aux reached hnil h hx
  | ended reached torn =>
    have hclosing := teardown_asks _ _ torn
    exact madeIn_aux reached (fun y hy => Call.composes_of_manages (hclosing y hy)) h hx

/-- Every composition of a life is allowed when it is asked for. -/
theorem Life.allowed (life : Life history calls) (issued : Issued history)
    (few : creations history ≤ BufferId.count) (h : calls = past ++ x :: future)
    (hx : x.call.composes) :
    ∃ e within s, MadeIn history past x e within s ∧ e.op.isAccelerated ∧
      Allowed s e.op past within x := by
  obtain ⟨e, within, s, made, hop⟩ := life.madeIn h hx
  obtain ⟨opening, before, after, rest, hhistory, htrace, hpast, reached, hnow⟩ := id made
  have hbefore : creations before ≤ BufferId.count := by
    rw [hhistory, creations_append] at few
    omega
  have ready : ∀ prepared, e.op = .blit prepared →
      Ready s (opening ++ callsOf before) prepared := by
    intro prepared hblit
    obtain ⟨earlier, hearlier, hprepared⟩ := issued before e after prepared hhistory hblit
    exact ready_of_mem reached hbefore hearlier hprepared
  have hallowed := (perform_guarded reached.sound hnow hop ready).split htrace
  rw [← hpast, List.nil_append] at hallowed
  exact ⟨e, within, s, made, hop, hallowed⟩

/-- The blit of a corner of a buffer onto itself. -/
def sampleBlit : PreparedBlit :=
  { src := .first, dst := .first, srcRect := ⟨0, 1, 4, 2⟩, dstRect := ⟨0, 1, 4, 2⟩
    usage := .blendSrc, options := {}, alpha := none }

/-- The view of the buffer of this blit. -/
def sampleView : EngineView :=
  { handle := ⟨160⟩, width := 8, height := 5, format := 0x2900, pitch := 32, cpp := 4
    alpha := none }

/-- A life in which this blit is prepared and run. -/
theorem life_sampleBlit :
    ∃ history calls past x future, Life history calls ∧ Issued history ∧
      creations history ≤ BufferId.count ∧ calls = past ++ x :: future ∧
      x.call = .engine (.process sampleView sampleView sampleBlit.srcRect sampleBlit.dstRect
        sampleBlit.options sampleBlit.usage) := by
  have hplay : (playLife granted [.create ⟨.xrgb8888, 16, 8, 4⟩ .general,
      .checkBlit .first ⟨0, 0, 4, 2⟩ .first ⟨0, 0, 4, 2⟩ {}, .blit sampleBlit]).map
      (fun life => (life.2.1.map fun e => (e.op, e.prepared?), creations life.2.1,
        (life.1 ++ callsOf life.2.1).any fun x =>
          x.call = .engine (.process sampleView sampleView sampleBlit.srcRect sampleBlit.dstRect
            sampleBlit.options sampleBlit.usage))) =
      some ([(.create ⟨.xrgb8888, 16, 8, 4⟩ .general, none),
        (.checkBlit .first ⟨0, 0, 4, 2⟩ .first ⟨0, 0, 4, 2⟩ {}, some sampleBlit),
        (.blit sampleBlit, none)], 1, true) := rfl
  obtain ⟨⟨opening, history, pool, closing⟩, hlife, heq⟩ := Option.map_eq_some_iff.1 hplay
  simp only [Prod.mk.injEq] at heq
  obtain ⟨hops, hone, hany⟩ := heq
  obtain ⟨x, hmem, hx⟩ := List.any_eq_true.1 hany
  obtain ⟨past, future, hsplit⟩ := List.append_of_mem hmem
  refine ⟨history, _, past, x, future, .going (life_of_playLife hlife).1, ?_, ?_, hsplit,
    of_decide_eq_true hx⟩
  · obtain ⟨e₁, rest, rfl, h₁, hops⟩ := List.map_eq_cons_iff.1 hops
    obtain ⟨e₂, rest, rfl, h₂, hops⟩ := List.map_eq_cons_iff.1 hops
    obtain ⟨e₃, rest, rfl, h₃, hops⟩ := List.map_eq_cons_iff.1 hops
    obtain rfl : rest = [] := List.map_eq_nil_iff.1 hops
    have hcheck : Issued ([e₁] ++ [e₂]) := by
      refine (issued_nil.concat fun p hp => ?_).concat fun p hp => ?_
      · rw [(Prod.mk.inj h₁).1] at hp
        cases hp
      · rw [(Prod.mk.inj h₂).1] at hp
        cases hp
    refine hcheck.concat fun p hp => ⟨e₂, by simp, ?_⟩
    rw [(Prod.mk.inj h₃).1] at hp
    cases hp
    exact (Prod.mk.inj h₂).2
  · rw [hone]
    decide

end Rockchip

end DrmSurface
