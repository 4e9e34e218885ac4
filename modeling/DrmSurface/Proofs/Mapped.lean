import DrmSurface.Buffer.Surface
import DrmSurface.Proofs.Geometry
import DrmSurface.Proofs.OneBuffer

/-!
# Which buffers are mapped

A buffer is mapped from a successful mapping on until the next attempt to unmap
it, whatever the device says to that.  This module proves it for the pools of
both backends at once.

There are three groups.

* `LeftMapped`, which says of a history that it has left a buffer mapped.
* `Pool.TracksMappings`, what the operations of a backend do to the mappings of
  its buffers, and `isMapped_iff_of_ran`, which follows for histories.
* `Surface.Fitted`, what the mapping of a surface has to do with its geometry.
  The header and the pixels are the two parts of such a mapping.
-/

namespace DrmSurface

open Prog

/-! ## Histories -/

/-- The episode has mapped the buffer with an id. -/
def Episode.Maps (id : BufferId) (e : Episode) : Prop := ∃ t place, e = ⟨.map id, t, .ok place⟩

/-- The buffer with an id has been mapped, and since it was last mapped nobody
has tried to unmap it. -/
def LeftMapped (history : List Episode) (id : BufferId) : Prop :=
  ∃ before e after, history = before ++ e :: after ∧ e.Maps id ∧
    ∀ e' ∈ after, ¬ e'.Maps id ∧ e'.op ≠ .unmap id

variable {history : List Episode} {e : Episode} {id : BufferId}

theorem LeftMapped.exists_maps (h : LeftMapped history id) : ∃ e ∈ history, e.Maps id := by
  obtain ⟨before, e, after, rfl, hmaps, -⟩ := h
  exact ⟨e, by simp, hmaps⟩

/-- The last episode decides, unless it has to do with other things. -/
theorem leftMapped_concat_iff :
    LeftMapped (history ++ [e]) id ↔ e.Maps id ∨ LeftMapped history id ∧ e.op ≠ .unmap id := by
  constructor
  · rintro ⟨before, e₀, after, heq, hmaps, hafter⟩
    -- The last mapping is the new episode, or the new episode is one of those after it.
    rcases List.eq_nil_or_concat' after with rfl | ⟨after, last, rfl⟩
    · obtain ⟨-, hlast⟩ := List.append_inj' heq rfl
      obtain rfl : e = e₀ := by simpa using hlast
      exact .inl hmaps
    · rw [← List.cons_append, ← List.append_assoc] at heq
      obtain ⟨rfl, hlast⟩ := List.append_inj' heq rfl
      obtain rfl : e = last := by simpa using hlast
      refine .inr ⟨⟨before, e₀, after, rfl, hmaps, fun e' he' => ?_⟩, (hafter e (by simp)).2⟩
      exact hafter e' (List.mem_append_left _ he')
  · intro h
    by_cases hnow : e.Maps id
    · exact ⟨history, e, [], rfl, hnow, fun _ h => by cases h⟩
    · obtain ⟨⟨before, e₀, after, rfl, hmaps, hafter⟩, hunmap⟩ := h.resolve_left hnow
      refine ⟨before, e₀, after ++ [e], by simp, hmaps, fun e' he' => ?_⟩
      rcases List.mem_append.1 he' with he' | he'
      · exact hafter e' he'
      · obtain rfl := List.mem_singleton.1 he'
        exact ⟨hnow, hunmap⟩

namespace Pool

/-! ## Pools -/

/-- What the operations of a backend do to the mappings of its buffers. -/
structure TracksMappings {β : Type} (New : BufferId → β → Prop)
    (Mapped Unmapped : β → Mapping → β → Prop) (table : Table (Pool β))
    (mapping? : β → Option Mapping) : Prop where
  effect : ∀ {p e p'}, Step table p e p' → Effect New Mapped Unmapped p e p'
  mapping_of_new : ∀ {id b}, New id b → mapping? b = none
  mapping_of_mapped : ∀ {b m b'}, Mapped b m b' → mapping? b' = some m
  /-- No buffer is mapped after an attempt to unmap it. -/
  mapping_of_unmap : ∀ {p e p' id b}, Step table p e p' → e.op = .unmap id →
    p'.get? id = some b → mapping? b = none

namespace TracksMappings

variable {β : Type} {New : BufferId → β → Prop} {Mapped Unmapped : β → Mapping → β → Prop}
  {table : Table (Pool β)} {mapping? : β → Option Mapping} {p p' : Pool β} {b : β}

/-- Only ids that were given out have been mapped. -/
theorem le_of_maps (h : TracksMappings New Mapped Unmapped table mapping?)
    (run : Ran table ∅ history p) (few : creations history ≤ BufferId.count)
    (he : e ∈ history) (hmaps : e.Maps id) : id.value.toNat ≤ creations history := by
  obtain ⟨before, after, rfl⟩ := List.append_of_mem he
  obtain ⟨s₁, s₂, hbefore, now, -⟩ := run.split rfl
  simp only [creations_append] at few ⊢
  have hnumbered := numbered_of_ran (fun h' => (h.effect h').turnover.change) hbefore (by omega)
  obtain ⟨t, place, rfl⟩ := hmaps
  obtain ⟨b, -, -, found, -⟩ := (h.effect now).of_map
  have hle := hnumbered.le_of_get? found
  omega

/-- A buffer that an operation neither makes nor maps nor tries to unmap was there before. -/
theorem get?_of_step (h : TracksMappings New Mapped Unmapped table mapping?)
    (now : Step table p e p') (hcreated : e.created? ≠ some id) (hmaps : ¬ e.Maps id)
    (hunmap : e.op ≠ .unmap id) (hget : p'.get? id = some b) : p.get? id = some b := by
  by_cases hmap : e.op = .map id
  · obtain ⟨op, t, result⟩ := e
    obtain rfl : op = .map id := hmap
    cases result with
    | ok place => exact absurd ⟨t, place, rfl⟩ hmaps
    | error error =>
      rcases (h.effect now).of_error with ⟨rfl, -⟩ | ⟨_, _, _, _, _, hop, -⟩
      · exact hget
      · cases hop
  · rcases (h.effect now).get?_of_untouched hcreated hmap hunmap with heq | ⟨-, hnone⟩
    · rwa [heq] at hget
    · rw [hnone] at hget
      cases hget

/-- A buffer is mapped if its last mapping has not been followed by an attempt to
unmap it. -/
theorem isMapped_iff_of_ran (h : TracksMappings New Mapped Unmapped table mapping?)
    (run : Ran table ∅ history p) (few : creations history ≤ BufferId.count)
    (hget : p.get? id = some b) : (mapping? b).isSome ↔ LeftMapped history id := by
  induction run generalizing b with
  | start => cases hget
  | @step history s s' e before now ih =>
    rw [leftMapped_concat_iff]
    have few' := few
    simp only [creations_append, creations_cons, creations_nil, Nat.zero_add] at few'
    have hbefore : creations history ≤ BufferId.count := by omega
    have hchange := (h.effect now).turnover.change
    by_cases hcreated : e.created? = some id
    · -- The buffer is new, so its id has never been mapped.
      have hnew : mapping? b = none := by
        rw [hcreated] at hchange
        cases hchange with
        | @added b' hnew =>
          obtain rfl : b' = b := by simpa using hget
          exact h.mapping_of_new hnew
      have hid : id.value.toNat = creations history + 1 := by
        have hnumbered := numbered_of_ran (fun h' => (h.effect h').turnover.change) before hbefore
        have hturn := (h.effect now).turnover
        rw [hcreated] at hturn few'
        rw [hturn.eq_nextId_of_given]
        exact hnumbered.value_nextId few'
      have hnever : ∀ e' ∈ history, ¬ e'.Maps id := by
        intro e' he' hmaps
        have hle := h.le_of_maps before hbefore he' hmaps
        omega
      rw [hnew]
      refine iff_of_false (by simp) ?_
      rintro (⟨t, place, rfl⟩ | ⟨hleft, -⟩)
      · cases hcreated
      · obtain ⟨e', he', hmaps⟩ := hleft.exists_maps
        exact hnever e' he' hmaps
    · by_cases hmaps : e.Maps id
      · obtain ⟨t, place, rfl⟩ := hmaps
        obtain ⟨b₀, b', m, -, hmapped, -, rfl⟩ := (h.effect now).of_map
        obtain rfl : b' = b := by simpa using hget
        rw [h.mapping_of_mapped hmapped]
        exact iff_of_true rfl (.inl ⟨t, place, rfl⟩)
      · by_cases hunmap : e.op = .unmap id
        · rw [h.mapping_of_unmap now hunmap hget]
          exact iff_of_false (by simp) fun hleft =>
            hleft.elim hmaps fun hleft => hleft.2 hunmap
        · rw [ih hbefore (h.get?_of_step now hcreated hmaps hunmap hget)]
          exact ⟨fun hleft => .inr ⟨hleft, hunmap⟩, fun hleft => (hleft.resolve_left hmaps).1⟩

end TracksMappings

end Pool

/-! ## Surfaces -/

namespace Surface

/-- What the mapping of a surface has to do with its geometry. -/
structure Fitted (s : Surface) : Prop where
  laid : s.geometry.Laid s.width s.height
  size_pos : 0 < s.geometry.size
  length_eq : ∀ {m}, s.mapping = some m → m.length = s.geometry.size

variable {s : Surface} {m : Mapping}

/-- A surface that is laid out and not mapped is fitted. -/
theorem Fitted.of_compute {table : FormatTable} {desc : SurfaceDesc}
    (hg : Geometry.compute table desc = .ok s.geometry) (hwidth : desc.width = s.width)
    (hheight : desc.height = s.height) (hm : s.mapping = none) : s.Fitted where
  laid := hwidth ▸ hheight ▸ Geometry.laid_of_compute hg
  size_pos := Geometry.size_pos_of_compute hg
  length_eq h := by
    rw [hm] at h
    cases h

/-- A fitted surface may have any mapping of its size, or none. -/
theorem Fitted.withMapping (fitted : s.Fitted) {mapping : Option Mapping}
    (h : ∀ m, mapping = some m → m.length = s.geometry.size) :
    ({ s with mapping } : Surface).Fitted :=
  ⟨fitted.laid, fitted.size_pos, h _⟩

theorem Fitted.size_eq (fitted : s.Fitted) :
    s.geometry.size = s.geometry.offset + s.height.toNat * s.geometry.pitch.toNat := by
  rw [fitted.laid.size_eq, fitted.laid.offset_eq, Nat.add_mul, Nat.add_comm]

/-- The header and the pixels are the two parts of the mapping, and the cut between
them is inside. -/
theorem Fitted.parts (fitted : s.Fitted) (hm : s.mapping = some m) :
    s.geometry.offset ≤ m.length ∧
      s.header? = some ⟨m, 0, s.geometry.headerRows.toNat * s.geometry.pitch.toNat⟩ ∧
      s.pixels? = some ⟨m, s.geometry.offset, s.height.toNat * s.geometry.pitch.toNat⟩ := by
  have hlength := fitted.length_eq hm
  have hsize := fitted.size_eq
  have hle : s.geometry.offset ≤ m.length := by omega
  refine ⟨hle, ?_, ?_⟩
  · rw [← fitted.laid.offset_eq]
    simp only [header?, bytes?, hm, Option.map_some, Mapping.span, Span.take, Nat.min_eq_left hle]
  · have hrest : m.length - s.geometry.offset = s.height.toNat * s.geometry.pitch.toNat := by omega
    simp only [pixels?, bytes?, hm, Option.map_some, Mapping.span, Span.drop, Nat.min_eq_left hle,
      Nat.zero_add, hrest]

end Surface

end DrmSurface
