import DrmSurface.Proofs.Mapping
import DrmSurface.Proofs.Rockchip.Store
import DrmSurface.Proofs.Vmwgfx.Store

/-!
# Both backends are one store

Operations that both backends have give the same results on a driver of each,
as long as the two kernels grant and refuse their services alike.  What only one
of them is asked for plays no part.

There are three groups.

* `KernelsAlike`, which compares the answers to the n-th request for each service.
* Two pools side by side.  If the operations of each of them are operations of
  the store, then both have the same store after the same operations.
* `Driver.backends_are_one_store`, for all histories of two new drivers.
-/

namespace DrmSurface

open Prog

variable {pageSize : Nat} {E : Errno → Errno → Prop} {h₁ h₂ h₁' h₂' : List Episode} {e e' : Episode}
  {service : Service}

/-! ## Kernels that are alike -/

/-- The n-th requests for a service are both granted, or both refused for reasons that
are related. -/
def KernelsAlike (pageSize : Nat) (E : Errno → Errno → Prop)
    (history history' : List Episode) : Prop :=
  ∀ (service : Service) (n : Nat) (o o' : Option Errno),
    (outcomes pageSize service history)[n]? = some o →
    (outcomes pageSize service history')[n]? = some o' →
      Option.Rel E o o'

@[simp] theorem outcomes_append :
    outcomes pageSize service (h₁ ++ h₂) =
      outcomes pageSize service h₁ ++ outcomes pageSize service h₂ := by
  rw [outcomes, List.flatMap_append, List.filterMap_append]
  rfl

theorem KernelsAlike.of_append (alike : KernelsAlike pageSize E (h₁ ++ h₂) (h₁' ++ h₂')) :
    KernelsAlike pageSize E h₁ h₁' := by
  intro service n o o' ho ho'
  have hn := (List.getElem?_eq_some_iff.1 ho).1
  have hn' := (List.getElem?_eq_some_iff.1 ho').1
  refine alike service n o o' ?_ ?_
  · rw [outcomes_append, List.getElem?_append_left hn, ho]
  · rw [outcomes_append, List.getElem?_append_left hn', ho']

theorem KernelsAlike.take (alike : KernelsAlike pageSize E h₁ h₁') (n : Nat) :
    KernelsAlike pageSize E (h₁.take n) (h₁'.take n) := by
  have hparts : KernelsAlike pageSize E (h₁.take n ++ h₁.drop n) (h₁'.take n ++ h₁'.drop n) := by
    simpa only [List.take_append_drop] using alike
  exact hparts.of_append

/-- An operation that needs a service once has one answer to it. -/
theorem outcomes_of_uses (service : Service) {uses : List Service}
    {refused : Service → Option Errno}
    (h : servicesOf pageSize e.trace = uses.map fun service => (service, refused service))
    (once : uses.Nodup) :
    outcomes pageSize service [e] = if service ∈ uses then [refused service] else [] := by
  have hfilter : outcomes pageSize service [e] =
      uses.filterMap fun s => if s = service then some (refused s) else none := by
    rw [outcomes, List.flatMap_singleton, h, List.filterMap_map]
    rfl
  rw [hfilter]
  clear h hfilter
  induction uses with
  | nil => rfl
  | cons s uses ih =>
    obtain ⟨hnot, once⟩ := List.nodup_cons.1 once
    by_cases hs : s = service
    · subst hs
      simp [ih once, hnot]
    · simp [ih once, hs, Ne.symm hs]

/-- The answers to all requests, service by service. -/
def answersTo (pageSize : Nat) (history : List Episode) : List (List (Option Errno)) :=
  [Service.allocate, .map, .unmap, .free].map (outcomes pageSize · history)

/-- Kernels that have given the same answers are alike. -/
theorem KernelsAlike.of_answersTo (h : answersTo pageSize h₁ = answersTo pageSize h₁') :
    KernelsAlike pageSize Eq h₁ h₁' := by
  have houtcomes : ∀ service, outcomes pageSize service h₁ = outcomes pageSize service h₁' := by
    simp only [answersTo, List.map_cons, List.map_nil, List.cons.injEq, and_true] at h
    obtain ⟨hallocate, hmap, hunmap, hfree⟩ := h
    intro service
    cases service <;> assumption
  intro service n o o' ho ho'
  rw [houtcomes service, ho'] at ho
  cases ho
  cases o with
  | none => exact .none
  | some e => exact .some rfl

/-! ## Two pools side by side -/

namespace Pool

section TwoPools

variable {β β' : Type} {surface : β → Surface} {surface' : β' → Surface}
  {table : Table (Pool β)} {table' : Table (Pool β')} {p p₀ : Pool β} {p' p₀' : Pool β'}

/-- Both pools hold the same buffers after histories that have asked for each service
equally often, and the results of these histories are alike. -/
structure InStep (pageSize : Nat) (E : Errno → Errno → Prop) (surface : β → Surface)
    (surface' : β' → Surface) (history history' : List Episode) (p : Pool β)
    (p' : Pool β') : Prop where
  seen : List.Forall₂ (fun e e' : Episode => SeenAlike E e.seen e'.seen) history history'
  asked : ∀ service, (outcomes pageSize service history).length =
    (outcomes pageSize service history').length
  store_eq : p.store surface = p'.store surface'

/-- Pools in step stay so if both perform an operation of the store and their kernels
are alike. -/
theorem InStep.step (h : InStep pageSize E surface surface' h₁ h₁' p₀ p₀') (hop : e.op = e'.op)
    (served : Served pageSize surface p₀ e p) (served' : Served pageSize surface' p₀' e' p')
    (alike : KernelsAlike pageSize E (h₁ ++ [e]) (h₁' ++ [e'])) :
    InStep pageSize E surface surface' (h₁ ++ [e]) (h₁' ++ [e']) p p' := by
  obtain ⟨refused, hservices, hseen, hstore⟩ := served
  obtain ⟨refused', hservices', hseen', hstore'⟩ := served'
  -- Both steps are now steps of one store, with services that differ in their answers only.
  rw [← hop, ← h.store_eq] at hservices' hseen' hstore'
  have once := (p₀.store surface).nodup_uses e.op
  have houtcomes : ∀ service, outcomes pageSize service [e] = _ :=
    fun service => outcomes_of_uses service hservices once
  have houtcomes' : ∀ service, outcomes pageSize service [e'] = _ :=
    fun service => outcomes_of_uses service hservices' once
  have hrel : ∀ service ∈ (p₀.store surface).uses e.op,
      Option.Rel E (refused service) (refused' service) := by
    intro service hmem
    refine alike service (outcomes pageSize service h₁).length _ _ ?_ ?_
    · rw [outcomes_append, houtcomes, if_pos hmem, List.getElem?_concat_length]
    · rw [outcomes_append, houtcomes', if_pos hmem, h.asked, List.getElem?_concat_length]
  obtain ⟨hresult, hnext⟩ := Store.serve_alike e.op hrel
  refine ⟨?_, fun service => ?_, ?_⟩
  · exact List.rel_append h.seen (.cons (hseen.congr hresult hseen') .nil)
  · simp only [outcomes_append, List.length_append, h.asked, houtcomes, houtcomes']
    split <;> rfl
  · rw [hstore, hnext, hstore']

/-- Two pools whose operations are operations of the store are in step after the same
operations, if their kernels are alike. -/
theorem inStep_of_ran {history history' : List Episode}
    (hserved : ∀ {h p e p'}, Ran table ∅ h p → e.op.IsCommon → Step table p e p' →
      Served pageSize surface p e p')
    (hserved' : ∀ {h p e p'}, Ran table' ∅ h p → e.op.IsCommon → Step table' p e p' →
      Served pageSize surface' p e p')
    (run : Ran table ∅ history p) (run' : Ran table' ∅ history' p')
    (same : history.map (·.op) = history'.map (·.op)) (common : ∀ e ∈ history, e.op.IsCommon)
    (alike : KernelsAlike pageSize E history history') :
    InStep pageSize E surface surface' history history' p p' := by
  induction run generalizing history' p' with
  | start =>
    obtain rfl : history' = [] := List.map_eq_nil_iff.1 same.symm
    obtain rfl := run'.eq_of_nil
    exact ⟨.nil, fun _ => rfl, rfl⟩
  | @step history p₀ p e before now ih =>
    rw [List.map_append] at same
    obtain ⟨history', last, rfl, hops, hlast⟩ := List.map_eq_append_iff.1 same.symm
    obtain ⟨e', rfl, hop⟩ := List.map_eq_singleton_iff.1 hlast
    obtain ⟨p₀', before', now'⟩ := run'.last
    have hcommon : e.op.IsCommon := common e (by simp)
    have hbefore := ih before' hops.symm (fun e he => common e (by simp [he])) alike.of_append
    exact hbefore.step hop.symm (hserved before hcommon now)
      (hserved' before' (hop ▸ hcommon) now') alike

end TwoPools

end Pool

namespace Driver

/-! ## Two drivers -/

/-- The drivers have the same buffers, and they count the same number of live ones. -/
structure Resembles (d d' : Driver) : Prop where
  ids_eq : d.ids = d'.ids
  live_eq : d.live = d'.live
  surface?_eq : ∀ id, (d.surface? id).map Surface.plain = (d'.surface? id).map Surface.plain

variable {opening opening' : List Exchange} {history history' : List Episode}
  {start start' d d' : Driver}

theorem resembles_of_store {pool : Vmwgfx.State} {pool' : Rockchip.State}
    (h : pool.store (·.surface) = pool'.store (·.surface)) :
    Resembles (.vmwgfx pool) (.rockchip pool') where
  ids_eq := by
    have hids := congrArg Pool.ids h
    rwa [Pool.store, Pool.store, Pool.ids_map, Pool.ids_map] at hids
  live_eq := congrArg Pool.live h
  surface?_eq id := by
    have hget := congrArg (Pool.get? · id) h
    simp only [Pool.get?_store] at hget
    simpa [surface?, Option.map_map, Function.comp_def] using hget

theorem alike_of_ran (hnew : (Driver.new .vmwgfx).Runs opening start)
    (hnew' : (Driver.new .rockchip).Runs opening' start')
    (run : Ran (perform pageSize) start history d)
    (run' : Ran (perform pageSize) start' history' d')
    (same : history.map (·.op) = history'.map (·.op)) (common : ∀ e ∈ history, e.op.IsCommon)
    (alike : KernelsAlike pageSize E history history') :
    List.Forall₂ (fun e e' : Episode => SeenAlike E e.seen e'.seen) history history' ∧
      d.Resembles d' := by
  obtain ⟨-, rfl⟩ := runs_done_iff.1 hnew
  obtain ⟨pool, rfl, hran⟩ := (Ran.embed_iff step_vmwgfx_iff).1 run
  obtain ⟨pool₀, rfl, hopen⟩ := runs_bind_pure_iff.1 hnew'
  obtain ⟨pool', rfl, hfrom⟩ := (Ran.embed_iff step_rockchip_iff).1 run'
  have hran' : Ran Rockchip.perform ∅ history' pool' := Rockchip.Reached.ran ⟨_, hopen, hfrom⟩
  have hinStep := Pool.inStep_of_ran
    (fun before hcommon now => Vmwgfx.perform_served hcommon
      (fun _ _ hb => (Vmwgfx.fitted_of_ran before hb).size_pos) now)
    (fun before hcommon now => Rockchip.perform_served hcommon
      (fun _ _ hb => (Rockchip.fitted_of_ran before hb).size_pos) now)
    hran hran' same common alike
  exact ⟨hinStep.seen, resembles_of_store hinStep.store_eq⟩

/-- Both backends are one store of buffers.  New drivers of the two backends that have
performed the same operations have given the same results, up to the places of mappings
and the names of the kernel calls that were refused, and after any number of these
operations they have the same buffers under the same ids and the same count.
The n-th requests for each service are answered alike, and what a kernel says to
other requests, those for descriptors and those to the engine, does not matter. -/
theorem backends_are_one_store (hnew : (Driver.new .vmwgfx).Runs opening start)
    (hnew' : (Driver.new .rockchip).Runs opening' start')
    (run : Ran (perform pageSize) start history d)
    (run' : Ran (perform pageSize) start' history' d')
    (same : history.map (·.op) = history'.map (·.op)) (common : ∀ e ∈ history, e.op.IsCommon)
    (alike : KernelsAlike pageSize E history history') :
    List.Forall₂ (fun e e' : Episode => SeenAlike E e.seen e'.seen) history history' ∧
    ∀ n d₁ d₁', Ran (perform pageSize) start (history.take n) d₁ →
      Ran (perform pageSize) start' (history'.take n) d₁' → d₁.Resembles d₁' := by
  refine ⟨(alike_of_ran hnew hnew' run run' same common alike).1, fun n d₁ d₁' run₁ run₁' => ?_⟩
  have same₁ : (history.take n).map (·.op) = (history'.take n).map (·.op) := by
    rw [List.map_take, List.map_take, same]
  have common₁ : ∀ e ∈ history.take n, e.op.IsCommon :=
    fun e he => common e (List.mem_of_mem_take he)
  exact (alike_of_ran hnew hnew' run₁ run₁' same₁ common₁ (alike.take n)).2

/-- A device that takes nothing back and exports no descriptors. -/
def keepsBuffers : (c : Call) → c.Answer
  | .unmap _ => .error .invalidArgument
  | .ioctl (.gemClose _) => .error .invalidArgument
  | .ioctl (.vmwUnrefDmabuf _) => .error .invalidArgument
  | .ioctl (.primeHandleToFd ..) => .error .invalidArgument
  | c => granted c

/-- Two buffers, one of which is destroyed while it is mapped. -/
def twoBuffers : List Operation :=
  [.create ⟨.xrgb8888, 16, 8, 4⟩ .scanout, .map .first, .unmap .first, .map .first,
    .create ⟨.rgb565, 0, 3, 2⟩ .general, .destroy .first, .unmap .first]

/-- What the device says to the requests for each service. -/
def twoBuffersAnswers : List (List (Option Errno)) :=
  [[none, none], [none, none], [some .invalidArgument, some .invalidArgument],
    [some .invalidArgument]]

theorem isCommon_of_mem_twoBuffers {op : Operation} (h : op ∈ twoBuffers) : op.IsCommon := by
  simp only [twoBuffers, List.mem_cons, List.not_mem_nil, or_false] at h
  rcases h with rfl | rfl | rfl | rfl | rfl | rfl | rfl
  · refine ⟨rfl, rfl, fun g hg => ?_⟩
    cases hg
    decide
  · trivial
  · trivial
  · trivial
  · refine ⟨rfl, rfl, fun g hg => ?_⟩
    cases hg
    decide
  · trivial
  · trivial

theorem backends_are_one_store_sample :
    ∃ opening start opening' start' history history' d d',
      (Driver.new .vmwgfx).Runs opening start ∧ (Driver.new .rockchip).Runs opening' start' ∧
      Ran (perform 4096) start history d ∧ Ran (perform 4096) start' history' d' ∧
      history.map (·.op) = twoBuffers ∧ history'.map (·.op) = twoBuffers ∧
      (∀ e ∈ history, e.op.IsCommon) ∧ KernelsAlike 4096 Eq history history' ∧
      List.Forall₂ (fun e e' : Episode => SeenAlike Eq e.seen e'.seen) history history' ∧
      d.Resembles d' ∧ d.live = 2 ∧ d.ids = [BufferId.first.next] := by
  have hnew : (Driver.new .vmwgfx).play keepsBuffers = some (_, .vmwgfx ∅) := rfl
  have hnew' : (Driver.new .rockchip).play keepsBuffers = some (_, .rockchip ∅) := rfl
  have hplay : (playAll (perform 4096) keepsBuffers (.vmwgfx ∅) twoBuffers).map
      (fun r => (r.1.map (·.op), answersTo 4096 r.1, r.2.live, r.2.ids)) =
      some (twoBuffers, twoBuffersAnswers, 2, [BufferId.first.next]) := rfl
  have hplay' : (playAll (perform 4096) keepsBuffers (.rockchip ∅) twoBuffers).map
      (fun r => (r.1.map (·.op), answersTo 4096 r.1)) = some (twoBuffers, twoBuffersAnswers) := rfl
  obtain ⟨⟨history, d⟩, hrun, heq⟩ := Option.map_eq_some_iff.1 hplay
  obtain ⟨⟨history', d'⟩, hrun', heq'⟩ := Option.map_eq_some_iff.1 hplay'
  obtain ⟨hops, hanswers, hlive, hids⟩ := by simpa only [Prod.mk.injEq] using heq
  obtain ⟨hops', hanswers'⟩ := Prod.mk.inj heq'
  have run := ran_of_playAll hrun
  have run' := ran_of_playAll hrun'
  have common : ∀ e ∈ history, e.op.IsCommon := fun e he =>
    isCommon_of_mem_twoBuffers (hops ▸ List.mem_map_of_mem he)
  have alike : KernelsAlike 4096 Eq history history' :=
    .of_answersTo (hanswers.trans hanswers'.symm)
  obtain ⟨hseen, hresembles⟩ := backends_are_one_store (runs_of_play hnew) (runs_of_play hnew')
    run run' (hops.trans hops'.symm) common alike
  have hlast : d.Resembles d' := by
    refine hresembles 7 d d' ?_ ?_
    · rwa [List.take_of_length_le]
      rw [← List.length_map, hops]
      rfl
    · rwa [List.take_of_length_le]
      rw [← List.length_map, hops']
      rfl
  exact ⟨_, _, _, _, history, history', d, d', runs_of_play hnew, runs_of_play hnew', run, run',
    hops, hops', common, alike, hseen, hlast, hlive, hids⟩

end Driver

end DrmSurface
