import DrmSurface.Proofs.Driver
import DrmSurface.Proofs.Mapped

/-!
# The mapping of a buffer

A buffer of a driver of either backend is mapped or it is not, and requests to
map it and to unmap it go between the two.  While it is mapped, all its bytes
are, and they are cut into its header and its pixels.

There are four groups.

* `MapRefusal`, the ways in which the mapping of a buffer that is not mapped can
  fail, and `MappingProtocol`, how a driver answers the two requests.
* The protocol for the vmwgfx driver.
* The protocol for the Rockchip driver.
* `Driver.mapping_follows_requests`, for all histories within the number of ids.
-/

namespace DrmSurface

open Prog

/-! ## The protocol -/

/-- The ways in which a request to map a number of bytes fails: the device does not
name a place, or the place is not at the start of a page or too far away, or the
device refuses the mapping. -/
inductive MapRefusal (pageSize size : Nat) (t : List Exchange) : DriverError → Prop where
  | noPlace {handle : UInt32} {cause : Errno}
      (refused : ⟨.ioctl (.rockchipGemMapOffset handle), .error cause⟩ ∈ t) :
      MapRefusal pageSize size t (.kernel .rockchipMapOffset cause)
  | misaligned {id : BufferId} {place : Nat} (h : place % pageSize ≠ 0)
      (told : ⟨.log (Vmwgfx.notice (.misaligned id place)), ()⟩ ∈ t) :
      MapRefusal pageSize size t (.kernel .map .invalidArgument)
  | tooFar : MapRefusal pageSize size t (.kernel .map .valueTooLarge)
  | refused {source : MapSource} {place : Nat} {cause : Errno}
      (refused : ⟨.map source size place, .error cause⟩ ∈ t) :
      MapRefusal pageSize size t (.kernel .map cause)

theorem MapRefusal.ne_alreadyMapped {pageSize size : Nat} {t : List Exchange} {error : DriverError}
    {id : BufferId} (h : MapRefusal pageSize size t error) : error ≠ .alreadyMapped id := by
  cases h <;> exact DriverError.noConfusion

/-- A mapping of some bytes is refused by the device, or because its place is too
far away. -/
theorem Device.map_refusal {source : MapSource} {length offset : Nat} (h : 0 < length) :
    (Device.map source length offset).Ensures fun t outcome => ∀ e, outcome = .error e →
      e = .valueTooLarge ∨ ⟨.map source length offset, .error e⟩ ∈ t := by
  rw [ensures_map_iff, if_neg (Nat.pos_iff_ne_zero.1 h)]
  split
  · intro e he
    cases he
    exact .inl rfl
  · refine ⟨fun _ _ he => (by cases he), fun e e' he => .inr ?_⟩
    cases he
    exact List.mem_singleton_self _

/-- How a driver in the state `s` answers requests to map and to unmap a buffer. -/
structure MappingProtocol {σ : Type} (pageSize : Nat) (table : Table σ) (s : σ) (id : BufferId)
    (surface : Surface) : Prop where
  /-- A buffer that is mapped is not mapped again, and nothing is asked. -/
  map_of_mapped : surface.isMapped → table s (.map id) = pure (.error (.alreadyMapped id), s)
  /-- A buffer that is not mapped cannot be unmapped, and nothing is asked. -/
  unmap_of_not_mapped : surface.isMapped = false →
    table s (.unmap id) = pure (.error (.notMapped id), s)
  /-- A mapping that fails leaves everything as it was. -/
  map_error : ∀ {t error s'}, Step table s ⟨.map id, t, .error error⟩ s' →
    s' = s ∧ (error = .alreadyMapped id ↔ surface.isMapped) ∧
      (surface.isMapped ∨ MapRefusal pageSize surface.geometry.size t error)
  unmap_error : ∀ {t error s'}, Step table s ⟨.unmap id, t, .error error⟩ s' →
    (error = .notMapped id ↔ surface.isMapped = false)

/-- The protocol for a pool: both requests look at the mapping of the buffer first, and
the mapping of a buffer that is not mapped succeeds or is refused. -/
theorem Pool.mappingProtocol {β : Type} {pageSize : Nat} (table : Table (Pool β))
    (surface : β → Surface)
    {map : Pool β → BufferId → Attempt (Address × Pool β)} {unmapped : β → β}
    {notice : Errno → Notice} {p : Pool β} {id : BufferId} {b : β}
    (hmap : table p (.map id) = Attempt.commit p (map p id))
    (hunmap : table p (.unmap id) =
      p.unmapWith (fun b => (surface b).mapping) unmapped notice id)
    (halready : (surface b).isMapped → map p id = throw (.alreadyMapped id))
    (hrefusal : (surface b).isMapped = false → (map p id).run.Ensures fun t outcome =>
      ∀ error, outcome = .error error → MapRefusal pageSize (surface b).geometry.size t error)
    (found : p.get? id = some b) : MappingProtocol pageSize table p id (surface b) := by
  have hmapped : (surface b).isMapped →
      table p (.map id) = pure (.error (.alreadyMapped id), p) := by
    intro h
    rw [hmap, halready h]
    rfl
  have hnot : (surface b).isMapped = false →
      table p (.unmap id) = pure (.error (.notMapped id), p) := by
    intro h
    rw [hunmap]
    exact unmapWith_of_none found (by simpa [Surface.isMapped] using h)
  refine ⟨hmapped, hnot, @fun t error p' now => ?_, @fun t error p' now => ?_⟩
  · cases h : (surface b).isMapped with
    | true =>
      rw [Step, hmapped h] at now
      obtain ⟨-, heq⟩ := runs_done_iff.1 now
      cases heq
      exact ⟨rfl, iff_of_true rfl rfl, .inl rfl⟩
    | false =>
      have hfails : (Attempt.commit p (map p id)).Ensures fun t r => ∀ error, r.1 = .error error →
          r.2 = p ∧ MapRefusal pageSize (surface b).geometry.size t error := by
        refine Attempt.ensures_commit_iff.2 ((hrefusal h).mono fun t outcome ht => ?_)
        cases outcome with
        | ok r => exact fun _ herror => by cases herror
        | error e => exact fun error herror => ⟨rfl, by cases herror; exact ht e rfl⟩
      rw [Step, hmap] at now
      obtain ⟨hp, ht⟩ := hfails _ _ now error rfl
      exact ⟨hp, iff_of_false ht.ne_alreadyMapped Bool.false_ne_true, .inr ht⟩
  · cases h : (surface b).isMapped with
    | true =>
      obtain ⟨m, hm⟩ := Option.isSome_iff_exists.1 h
      rw [Step, hunmap] at now
      obtain ⟨-, -, hresult⟩ := unmapWith_of_some found hm _ _ now
      refine iff_of_false ?_ Bool.false_ne_true.symm
      rcases hresult with hresult | ⟨cause, hresult⟩ <;> cases hresult
      exact DriverError.noConfusion
    | false =>
      rw [Step, hnot h] at now
      obtain ⟨-, heq⟩ := runs_done_iff.1 now
      cases heq
      exact iff_of_true rfl rfl

/-- If the operations of one table are those of another, then so is the protocol. -/
theorem MappingProtocol.embed {σ τ : Type} {pageSize : Nat} {table : Table σ} {table' : Table τ}
    {f : σ → τ} {s : σ}
    {id : BufferId} {surface : Surface}
    (hpure : ∀ op r, table s op = pure (r, s) → table' (f s) op = pure (r, f s))
    (hstep : ∀ e d, Step table' (f s) e d ↔ ∃ s', d = f s' ∧ Step table s e s')
    (h : MappingProtocol pageSize table s id surface) :
    MappingProtocol pageSize table' (f s) id surface where
  map_of_mapped hmapped := hpure _ _ (h.map_of_mapped hmapped)
  unmap_of_not_mapped hmapped := hpure _ _ (h.unmap_of_not_mapped hmapped)
  map_error now := by
    obtain ⟨s', rfl, hnow⟩ := (hstep _ _).1 now
    obtain ⟨rfl, herror⟩ := h.map_error hnow
    exact ⟨rfl, herror⟩
  unmap_error now := by
    obtain ⟨s', rfl, hnow⟩ := (hstep _ _).1 now
    exact h.unmap_error hnow

namespace Vmwgfx

open Attempt hiding asks_pure ensures_bind_iff ensures_pure_iff

/-! ## The vmwgfx driver -/

variable {pageSize : Nat} {pool pool' : State} {id : BufferId} {b : Buffer}

theorem unmap_mapping : (unmap pool id).Ensures fun _ r =>
    ∀ b, r.2.get? id = some b → b.surface.mapping = none := by
  rw [unmap_eq]
  exact Pool.unmapWith_mapping fun _ => rfl

theorem tracksMappings :
    Pool.TracksMappings Admitted Mapped Unmapped (perform pageSize) (·.surface.mapping) where
  effect := perform_effect
  mapping_of_new h := h.mapping_eq
  mapping_of_mapped h := by rw [h.result_eq]; rfl
  mapping_of_unmap := by
    rintro p ⟨op, t, result⟩ p' id b now rfl hb
    exact unmap_mapping _ _ now b hb

theorem Admitted.fitted (h : Admitted id b) : b.surface.Fitted := by
  obtain ⟨desc, hg, -, hwidth, hheight⟩ := h.laidOut
  exact .of_compute hg hwidth hheight h.mapping_eq

theorem fitted_of_switched {b' : Buffer} (h : Pool.Switched Mapped Unmapped b b')
    (fitted : b.surface.Fitted) : b'.surface.Fitted := by
  obtain ⟨m, h | h⟩ := h <;> rw [h.result_eq]
  · exact fitted.withMapping fun m' hm => by cases hm; exact h.length_eq
  · exact fitted.withMapping fun m' hm => by cases hm

theorem fitted_of_ran {history : List Episode} (run : Ran (perform pageSize) ∅ history pool)
    (hb : pool.get? id = some b) : b.surface.Fitted :=
  Pool.forall_buffers_of_ran (fun h => (perform_effect h).turnover.change) Admitted.fitted
    fitted_of_switched run hb

/-- The mapping of a buffer that is not mapped succeeds or is refused. -/
theorem map_refusal (found : pool.get? id = some b) (hmapped : b.surface.isMapped = false)
    (hsize : 0 < b.surface.geometry.size) : (map pageSize pool id).run.Ensures fun t outcome =>
      ∀ error, outcome = .error error → MapRefusal pageSize b.surface.geometry.size t error := by
  rw [map, found]
  simp only [ofOption, pure_bind, hmapped, Bool.false_eq_true, if_false]
  split
  · rename_i hmisaligned
    refine Attempt.ensures_bind_iff.2 (ensures_lift_iff.2 (ensures_log_iff.2 ?_))
    refine ensures_throw_iff.2 fun error herror => ?_
    cases herror
    exact .misaligned hmisaligned (List.mem_singleton_self _)
  · refine ensures_request_iff.2 ((Device.map_refusal hsize).mono fun t outcome h => ?_)
    cases outcome with
    | error e =>
      intro error herror
      cases herror
      rcases h e rfl with rfl | hrefused
      · exact .tooFar
      · exact .refused (List.mem_append_left _ hrefused)
    | ok m =>
      refine Attempt.ensures_bind_iff.2 (ensures_lift_iff.2 (ensures_log_iff.2 ?_))
      exact Attempt.ensures_pure_iff.2 fun _ herror => by cases herror

theorem mappingProtocol (found : pool.get? id = some b) (hsize : 0 < b.surface.geometry.size) :
    MappingProtocol pageSize (perform pageSize) pool id b.surface := by
  refine Pool.mappingProtocol (perform pageSize) (·.surface) rfl (unmap_eq id) (fun hmapped => ?_)
    (fun hmapped => map_refusal found hmapped hsize) found
  simp only [map, found, ofOption, pure_bind, hmapped, if_true]

end Vmwgfx

namespace Rockchip

open Attempt hiding asks_pure ensures_bind_iff ensures_pure_iff

/-! ## The Rockchip driver -/

variable {pageSize : Nat} {pool pool' : State} {id : BufferId} {b : Buffer}

theorem unmap_mapping : (unmap pool id).Ensures fun _ r =>
    ∀ b, r.2.get? id = some b → b.surface.mapping = none := by
  rw [unmap_eq]
  exact Pool.unmapWith_mapping fun _ => rfl

theorem tracksMappings :
    Pool.TracksMappings Admitted Mapped Unmapped perform (·.surface.mapping) where
  effect := perform_effect
  mapping_of_new h := h.2
  mapping_of_mapped h := by rw [h.result_eq]; rfl
  mapping_of_unmap := by
    rintro p ⟨op, t, result⟩ p' id b now rfl hb
    exact unmap_mapping _ _ now b hb

theorem Admitted.fitted (h : Admitted id b) : b.surface.Fitted := by
  obtain ⟨desc, hg, -, hwidth, hheight⟩ := h.1.laidOut
  exact .of_compute hg hwidth hheight h.2

theorem fitted_of_switched {b' : Buffer} (h : Pool.Switched Mapped Unmapped b b')
    (fitted : b.surface.Fitted) : b'.surface.Fitted := by
  obtain ⟨m, h | h⟩ := h <;> rw [h.result_eq]
  · exact fitted.withMapping fun m' hm => by cases hm; exact h.length_eq
  · exact fitted.withMapping fun m' hm => by cases hm

theorem fitted_of_ran {history : List Episode} (run : Ran perform ∅ history pool)
    (hb : pool.get? id = some b) : b.surface.Fitted :=
  Pool.forall_buffers_of_ran (fun h => (perform_effect h).turnover.change) Admitted.fitted
    fitted_of_switched run hb

variable (pageSize) in
/-- The place of a buffer is known, or the device has not named it. -/
theorem mapSource_refusal : (mapSource b).run.Ensures fun t outcome => ∀ error,
    outcome = .error error → MapRefusal pageSize b.surface.geometry.size t error := by
  unfold mapSource
  split
  · exact Attempt.ensures_pure_iff.2 fun _ h => by cases h
  · refine ensures_request_iff.2 (Device.ensures_ioctl_iff.2 (forall_except_iff.2 ⟨?_, ?_⟩))
    · exact fun _ => Attempt.ensures_pure_iff.2 fun _ h => by cases h
    · intro e error herror
      cases herror
      exact .noPlace (List.mem_cons_self ..)

/-- The mapping of a buffer that is not mapped succeeds or is refused. -/
theorem map_refusal (found : pool.get? id = some b) (hmapped : b.surface.isMapped = false)
    (hsize : 0 < b.surface.geometry.size) : (map pool id).run.Ensures fun t outcome =>
      ∀ error, outcome = .error error → MapRefusal pageSize b.surface.geometry.size t error := by
  rw [map, found]
  simp only [ofOption, pure_bind, hmapped, Bool.false_eq_true, if_false]
  refine Attempt.ensures_bind_iff.2 ((mapSource_refusal pageSize).mono fun t outcome hsource => ?_)
  cases outcome with
  | error e =>
    intro error herror
    cases herror
    exact hsource e rfl
  | ok place =>
    refine ensures_request_iff.2 ((Device.map_refusal hsize).mono fun t' outcome h => ?_)
    cases outcome with
    | error e =>
      intro error herror
      cases herror
      rcases h e rfl with rfl | hrefused
      · exact .tooFar
      · exact .refused (List.mem_append_right _ (List.mem_append_left _ hrefused))
    | ok m => exact Attempt.ensures_pure_iff.2 fun _ herror => by cases herror

theorem mappingProtocol (found : pool.get? id = some b) (hsize : 0 < b.surface.geometry.size) :
    MappingProtocol pageSize perform pool id b.surface := by
  refine Pool.mappingProtocol perform (·.surface) rfl (unmap_eq id) (fun hmapped => ?_)
    (fun hmapped => map_refusal found hmapped hsize) found
  simp only [map, found, ofOption, pure_bind, hmapped, if_true]

end Rockchip

namespace Driver

/-! ## All histories -/

variable {pageSize : Nat} {backend : Backend} {opening : List Exchange} {history : List Episode}
  {start d : Driver} {id : BufferId} {s : Surface}

theorem protocol_of_ran (hnew : (Driver.new backend).Runs opening start)
    (run : Ran (perform pageSize) start history d) (few : creations history ≤ BufferId.count)
    (hs : d.surface? id = some s) :
    (s.isMapped ↔ LeftMapped history id) ∧ MappingProtocol pageSize (perform pageSize) d id s ∧
      s.Fitted := by
  rcases ran_cases hnew run with ⟨pool, rfl, hran⟩ | ⟨pool, rfl, reached⟩
  · obtain ⟨b, hb, rfl⟩ := Option.map_eq_some_iff.1 hs
    have fitted := Vmwgfx.fitted_of_ran hran hb
    refine ⟨Vmwgfx.tracksMappings.isMapped_iff_of_ran hran few hb, ?_, fitted⟩
    refine (Vmwgfx.mappingProtocol hb fitted.size_pos).embed (fun op r h => ?_)
      (step_vmwgfx_iff pool)
    simp only [perform, h, pure_bind]
  · obtain ⟨b, hb, rfl⟩ := Option.map_eq_some_iff.1 hs
    have fitted := Rockchip.fitted_of_ran reached.ran hb
    refine ⟨Rockchip.tracksMappings.isMapped_iff_of_ran reached.ran few hb, ?_, fitted⟩
    refine (Rockchip.mappingProtocol hb fitted.size_pos).embed (fun op r h => ?_)
      (step_rockchip_iff pool)
    simp only [perform, h, pure_bind]

/-- A buffer is mapped if and only if its last successful mapping has not been followed
by an attempt to unmap it.  While it is mapped it is not mapped again, and while
it is not it cannot be unmapped; neither asks the device for anything.  A mapping that
fails otherwise leaves the buffer unmapped.  Every buffer has bytes, so that no
mapping of none is ever tried, and while it is mapped its bytes are cut at the
offset of its pixels, which is inside, into its header rows and its pixels. -/
theorem mapping_follows_requests (hnew : (Driver.new backend).Runs opening start)
    (run : Ran (perform pageSize) start history d) (few : creations history ≤ BufferId.count)
    (hs : d.surface? id = some s) :
    (s.isMapped ↔ LeftMapped history id) ∧
    (s.isMapped → d.perform pageSize (.map id) = pure (.error (.alreadyMapped id), d)) ∧
    (s.isMapped = false → d.perform pageSize (.unmap id) = pure (.error (.notMapped id), d)) ∧
    (∀ t error d', Step (perform pageSize) d ⟨.map id, t, .error error⟩ d' → d' = d ∧
      (error = .alreadyMapped id ↔ s.isMapped) ∧
      (s.isMapped = false → MapRefusal pageSize s.geometry.size t error)) ∧
    (∀ t error d', Step (perform pageSize) d ⟨.unmap id, t, .error error⟩ d' →
      (error = .notMapped id ↔ s.isMapped = false)) ∧
    0 < s.geometry.size ∧
    ∀ m, s.mapping = some m →
      m.length = s.geometry.size ∧ s.geometry.offset ≤ m.length ∧
      s.header? = some ⟨m, 0, s.geometry.headerRows.toNat * s.geometry.pitch.toNat⟩ ∧
      s.pixels? = some ⟨m, s.geometry.offset, s.height.toNat * s.geometry.pitch.toNat⟩ := by
  obtain ⟨hleft, protocol, fitted⟩ := protocol_of_ran hnew run few hs
  refine ⟨hleft, protocol.map_of_mapped, protocol.unmap_of_not_mapped, fun t error d' now => ?_,
    fun t error d' => protocol.unmap_error, fitted.size_pos, fun m hm =>
      ⟨fitted.length_eq hm, fitted.parts hm⟩⟩
  obtain ⟨hd, halready, hcases⟩ := protocol.map_error now
  refine ⟨hd, halready, fun hmapped => hcases.resolve_left ?_⟩
  rw [hmapped]
  exact Bool.false_ne_true

/-- A buffer with one header row that has been mapped, unmapped in vain, and mapped
again. -/
theorem mapping_follows_requests_sample :
    ∃ opening start history d s m, (Driver.new .rockchip).Runs opening start ∧
      Ran (perform 4096) start history d ∧ creations history = 1 ∧ d.surface? .first = some s ∧
      s.mapping = some m ∧ LeftMapped history .first ∧
      d.perform 4096 (.map .first) = pure (.error (.alreadyMapped .first), d) ∧
      m.length = 160 ∧ s.header? = some ⟨m, 0, 32⟩ ∧ s.pixels? = some ⟨m, 32, 128⟩ := by
  have hnew : (Driver.new .rockchip).play keepsMappings = some (_, .rockchip ∅) := rfl
  have hplay : (playAll (perform 4096) keepsMappings (.rockchip ∅)
      [.create ⟨.xrgb8888, 16, 8, 4⟩ .general,
      .map .first, .unmap .first, .map .first]).map (fun r => (creations r.1,
        (r.2.surface? .first).map fun s => (s.mapping, s.geometry, s.height))) =
      some (1, some (some ⟨⟨4096⟩, 160⟩, ⟨⟨32, 4, some 0x2900⟩, 32, 1, 160, 32⟩, 4)) := rfl
  obtain ⟨⟨history, d⟩, hops, heq⟩ := Option.map_eq_some_iff.1 hplay
  obtain ⟨hone, hsome⟩ := Prod.mk.inj heq
  obtain ⟨s, hs, hparts⟩ := Option.map_eq_some_iff.1 hsome
  obtain ⟨hm, hgeometry, hheight⟩ := by simpa only [Prod.mk.injEq] using hparts
  have hone : creations history = 1 := hone
  have run := ran_of_playAll hops
  obtain ⟨hleft, hmap, -, -, -, -, hbytes⟩ :=
    mapping_follows_requests (runs_of_play hnew) run (by rw [hone]; decide) hs
  obtain ⟨hlength, -, hheader, hpixels⟩ := hbytes _ hm
  have hmapped : s.isMapped := by simp [Surface.isMapped, hm]
  rw [hgeometry] at hlength hheader hpixels
  rw [hheight] at hpixels
  exact ⟨_, _, history, d, s, _, runs_of_play hnew, run, hone, hs, hm, hleft.1 hmapped,
    hmap hmapped, hlength, hheader, hpixels⟩

end Driver

end DrmSurface
