import DrmSurface.Probe.Run
import DrmSurface.Proofs.Mapping

/-!
# The test pattern

A probe that maps a buffer draws a pattern before it unmaps the buffer again: every
byte of a row of pixels is the number of the row.  The pattern covers the pixels and
nothing else, whatever the geometry of the buffer.

There are four groups.

* `Memory`, the bytes that a program can see, and how calls change them.
* Rows.  The pixels of a buffer are cut into as many rows as it has, all of the
  same length (`Surface.Fitted.chunks_eq`).
* Drawing.  `Drawn` says which rows have been drawn.  A fill draws one more, and
  `fillRows_drawn` goes on to all of them.
* `Driver.pattern_covers_pixels`, for all buffers of all histories.
-/

namespace DrmSurface

open Prog

/-! ## Memory -/

/-- The bytes that a program can see. -/
def Memory : Type := Address → UInt8

/-- The place of a byte of a mapping. -/
def Mapping.byte (m : Mapping) (i : Nat) : Address := ⟨m.start.value + i⟩

theorem Mapping.byte_inj {m : Mapping} {i j : Nat} : m.byte i = m.byte j ↔ i = j := by
  simp [byte]

/-- The byte at a place belongs to a run of mapped bytes. -/
def Span.Contains (s : Span) (a : Address) : Prop :=
  s.mapping.start.value + s.offset ≤ a.value ∧
    a.value < s.mapping.start.value + s.offset + s.length

instance (s : Span) (a : Address) : Decidable (s.Contains a) := inferInstanceAs (Decidable (_ ∧ _))

theorem Span.contains_byte_iff {s : Span} {i : Nat} :
    s.Contains (s.mapping.byte i) ↔ s.offset ≤ i ∧ i < s.offset + s.length := by
  simp only [Contains, Mapping.byte]
  omega

theorem Span.exists_byte_of_contains {s : Span} {a : Address} (h : s.Contains a) :
    ∃ i, s.offset ≤ i ∧ i < s.offset + s.length ∧ a = s.mapping.byte i := by
  obtain ⟨hle, hlt⟩ := h
  refine ⟨a.value - s.mapping.start.value, by omega, by omega, ?_⟩
  have hvalue : a.value = s.mapping.start.value + (a.value - s.mapping.start.value) := by omega
  exact congrArg Address.mk hvalue

namespace Memory

/-- One byte is stored all over a run of bytes. -/
def store (memory : Memory) (s : Span) (byte : UInt8) : Memory :=
  fun a => if s.Contains a then byte else memory a

/-- How a call changes memory.  Fills are the only calls that store bytes. -/
def step (memory : Memory) : Exchange → Memory
  | ⟨.fill s byte, _⟩ => memory.store s byte
  | _ => memory

/-- Memory after some calls. -/
def after (memory : Memory) (t : List Exchange) : Memory := t.foldl step memory

@[simp] theorem after_append (memory : Memory) (t₁ t₂ : List Exchange) :
    memory.after (t₁ ++ t₂) = (memory.after t₁).after t₂ :=
  List.foldl_append

end Memory

/-! ## Rows -/

/-- A row of a mapping, where rows of `pitch` bytes start at an offset. -/
def Mapping.row (m : Mapping) (offset pitch i : Nat) : Span := ⟨m, offset + i * pitch, pitch⟩

/-- A run of whole rows is cut into the rows. -/
theorem Span.chunks_of_length {s : Span} {n pitch : Nat} (h : s.length = n * pitch)
    (hpitch : 0 < pitch) : s.chunks pitch = (List.range n).map (s.mapping.row s.offset pitch) := by
  have hcount : (s.length + pitch - 1) / pitch = n := by
    rw [h, Nat.add_sub_assoc hpitch, Nat.add_comm, Nat.add_mul_div_right _ _ hpitch,
      Nat.div_eq_of_lt (by omega), Nat.zero_add]
  rw [chunks, hcount]
  refine List.map_congr_left fun i hi => ?_
  have hlast : i * pitch + pitch ≤ s.length := by
    rw [h, ← Nat.succ_mul]
    exact Nat.mul_le_mul_right _ (List.mem_range.1 hi)
  simp only [drop, take, Mapping.row]
  congr 1 <;> omega

namespace Surface

variable {s : Surface} {m : Mapping}

theorem Fitted.pitch_pos (fitted : s.Fitted) : 0 < s.geometry.pitch.toNat := by
  refine Nat.pos_of_ne_zero fun hzero => ?_
  have hsize := fitted.laid.size_eq
  have hpos := fitted.size_pos
  rw [hzero, Nat.mul_zero] at hsize
  omega

/-- The pixels of a mapped buffer are cut into its rows. -/
theorem Fitted.chunks_eq (fitted : s.Fitted) (hm : s.mapping = some m) :
    ∃ pixels, s.pixels? = some pixels ∧ pixels.chunks s.geometry.pitch.toNat =
      (List.range s.height.toNat).map (m.row s.geometry.offset s.geometry.pitch.toNat) :=
  ⟨_, (fitted.parts hm).2.2, Span.chunks_of_length rfl fitted.pitch_pos⟩

end Surface

/-! ## Drawing -/

/-- The rows of a mapping from the first one up to the last one have been drawn, and
nothing else has changed. -/
structure Drawn (m : Mapping) (offset pitch first last : Nat) (memory memory' : Memory) : Prop where
  row_eq : ∀ row, first ≤ row → row < last → ∀ column < pitch,
    memory' (m.byte (offset + row * pitch + column)) = UInt8.ofNat row
  elsewhere : ∀ a, (∀ i, offset + first * pitch ≤ i → i < offset + last * pitch → a ≠ m.byte i) →
    memory' a = memory a

variable {m : Mapping} {offset pitch first mid last : Nat} {memory memory' memory'' : Memory}

theorem drawn_none : Drawn m offset pitch first first memory memory where
  row_eq _ hfirst hlast := absurd hlast (Nat.not_lt.2 hfirst)
  elsewhere _ _ := rfl

/-- A fill draws one row. -/
theorem drawn_store (row : Nat) : Drawn m offset pitch row (row + 1) memory
    (memory.store (m.row offset pitch row) (UInt8.ofNat row)) where
  row_eq row' hfirst hlast column hcolumn := by
    obtain rfl : row' = row := by omega
    have hcontains : (m.row offset pitch row').Contains
        (m.byte (offset + row' * pitch + column)) :=
      Span.contains_byte_iff.2 ⟨by simp [Mapping.row], by simpa [Mapping.row] using hcolumn⟩
    exact if_pos hcontains
  elsewhere a ha := by
    refine if_neg fun hcontains => ?_
    obtain ⟨i, hle, hlt, rfl⟩ := Span.exists_byte_of_contains hcontains
    refine ha i hle ?_ rfl
    rw [Nat.succ_mul, ← Nat.add_assoc]
    exact hlt

/-- More rows are drawn after some rows, which they leave alone. -/
theorem Drawn.trans (h : Drawn m offset pitch first mid memory memory')
    (h' : Drawn m offset pitch mid last memory' memory'') (hfirst : first ≤ mid)
    (hlast : mid ≤ last) : Drawn m offset pitch first last memory memory'' where
  row_eq row hle hlt column hcolumn := by
    by_cases hmid : row < mid
    · rw [h'.elsewhere, h.row_eq row hle hmid column hcolumn]
      rintro i hi - heq
      have hend : (row + 1) * pitch ≤ mid * pitch := Nat.mul_le_mul_right _ hmid
      rw [Mapping.byte_inj] at heq
      rw [Nat.succ_mul] at hend
      omega
    · exact h'.row_eq row (Nat.not_lt.1 hmid) hlt column hcolumn
  elsewhere a ha := by
    have hstart : first * pitch ≤ mid * pitch := Nat.mul_le_mul_right _ hfirst
    have hend : mid * pitch ≤ last * pitch := Nat.mul_le_mul_right _ hlast
    rw [h'.elsewhere a fun i hle hlt => ha i (by omega) hlt,
      h.elsewhere a fun i hle hlt => ha i hle (by omega)]

/-- Filling rows with their numbers draws all of them. -/
theorem fillRows_drawn (first n : Nat) :
    (fillRows first ((List.range' first n).map (m.row offset pitch))).Ensures fun t _ =>
      ∀ memory : Memory, Drawn m offset pitch first (first + n) memory (memory.after t) := by
  induction n generalizing first with
  | zero => exact ensures_pure_iff.2 fun _ => drawn_none
  | succ n ih =>
    rw [List.range'_succ, List.map_cons, fillRows, ensures_bind_iff, ensures_call_iff]
    intro _
    refine (ih (first + 1)).mono fun t _ hrest memory => ?_
    have hone : Drawn m offset pitch first (first + 1) memory
        (memory.store (m.row offset pitch first) (UInt8.ofNat first)) := drawn_store first
    rw [Memory.after_append]
    have hlast : first + (n + 1) = first + 1 + n := by omega
    rw [hlast]
    exact hone.trans (hrest _) (by omega) (by omega)

/-- The pattern is drawn on all rows of the pixels. -/
theorem drawPattern_drawn {s : Surface} (fitted : s.Fitted) (hm : s.mapping = some m) :
    (drawPattern s).Ensures fun t _ => ∀ memory : Memory, Drawn m s.geometry.offset
      s.geometry.pitch.toNat 0 s.height.toNat memory (memory.after t) := by
  obtain ⟨pixels, hpixels, hchunks⟩ := fitted.chunks_eq hm
  simp only [drawPattern, hpixels, hchunks, List.range_eq_range']
  refine (fillRows_drawn 0 s.height.toNat).mono fun t _ hdrawn memory => ?_
  rw [← Nat.zero_add s.height.toNat]
  exact hdrawn memory

/-! ## All histories -/

namespace Driver

variable {pageSize : Nat} {backend : Backend} {opening t : List Exchange} {history : List Episode}
  {start d d' d₁ : Driver} {id : BufferId} {s : Surface} {place : Address}
  {options : ProbeOptions} {r : Except ProbeError Unit}

theorem fitted_of_ran (hnew : (Driver.new backend).Runs opening start)
    (run : Ran (perform pageSize) start history d) (hs : d.surface? id = some s) : s.Fitted := by
  rcases ran_cases hnew run with ⟨pool, rfl, hran⟩ | ⟨pool, rfl, reached⟩
  · obtain ⟨b, hb, rfl⟩ := Option.map_eq_some_iff.1 hs
    exact Vmwgfx.fitted_of_ran hran hb
  · obtain ⟨b, hb, rfl⟩ := Option.map_eq_some_iff.1 hs
    exact Rockchip.fitted_of_ran reached.ran hb

/-- A buffer that is mapped gets a mapping of its size, and is the same otherwise. -/
theorem surface?_of_map (hs : d.surface? id = some s)
    (now : (d.perform pageSize (.map id)).Runs t (.ok place, d₁)) :
    d₁.surface? id = some { s with mapping := some ⟨place, s.geometry.size⟩ } := by
  have now : Step (perform pageSize) d ⟨.map id, t, .ok place⟩ d₁ := now
  rcases step_cases now with ⟨pool, pool', rfl, rfl, h⟩ | ⟨pool, pool', rfl, rfl, h⟩
  · obtain ⟨b, b', m, found, hmapped, rfl, rfl⟩ := (Vmwgfx.perform_effect h).of_map
    have hs : (pool.get? id).map (·.surface) = some s := hs
    rw [found] at hs
    obtain rfl : b.surface = s := by simpa using hs
    simp [surface?, hmapped.result_eq, Vmwgfx.Buffer.withMapping, ← hmapped.length_eq]
  · obtain ⟨b, b', m, found, hmapped, rfl, rfl⟩ := (Rockchip.perform_effect h).of_map
    have hs : (pool.get? id).map (·.surface) = some s := hs
    rw [found] at hs
    obtain rfl : b.surface = s := by simpa using hs
    simp [surface?, hmapped.result_eq, Rockchip.Buffer.withMapping, ← hmapped.length_eq]

/-- If it is asked to map a buffer, and the mapping does not fail, then a trial maps the
buffer, draws the pattern and unmaps the buffer, before it does anything else. -/
theorem exercise_maps (hs : d.surface? id = some s) (hmap : options.map = true)
    (exercised : (exercise pageSize d id options).Runs t (r, d'))
    (hmapped : ∀ cause, r ≠ .error (.map cause)) :
    ∃ opened place d₁ drawn closed unmapped d₂ later,
      t = opened ++ ⟨.print (.mappedAt place), ()⟩ :: drawn ++ closed ++ later ∧
      (d.perform pageSize (.map id)).Runs opened (.ok place, d₁) ∧
      (drawPattern { s with mapping := some ⟨place, s.geometry.size⟩ }).Runs drawn () ∧
      (d₁.perform pageSize (.unmap id)).Runs closed (unmapped, d₂) := by
  simp only [exercise, hmap, if_true] at exercised
  obtain ⟨⟨tried, d₂⟩, t₁, later, rfl, htry, hrest⟩ := runs_bind_iff.1 exercised
  obtain ⟨⟨mapped, d₁⟩, opened, t₂, rfl, hopen, htry⟩ := runs_bind_iff.1 htry
  cases mapped with
  | error cause =>
    obtain ⟨-, heq⟩ := runs_done_iff.1 htry
    cases heq
    obtain ⟨-, heq⟩ := runs_done_iff.1 hrest
    cases heq
    exact absurd rfl (hmapped cause)
  | ok place =>
    obtain ⟨⟨⟩, printed, t₃, rfl, hprint, hbody⟩ := runs_bind_iff.1 htry
    obtain ⟨⟨⟩, rest, rfl, hdone⟩ := runs_ask_iff.1 hprint
    obtain ⟨rfl, -⟩ := runs_done_iff.1 hdone
    simp only [surface?_of_map hs hopen] at hbody
    obtain ⟨⟨⟩, drawn, t₄, rfl, hdraw, hunmap⟩ := runs_bind_iff.1 hbody
    obtain ⟨⟨unmapped, d₃⟩, closed, t₅, rfl, hclose, hlast⟩ := runs_bind_iff.1 hunmap
    obtain ⟨rfl, -⟩ := runs_done_iff.1 hlast
    exact ⟨opened, place, d₁, drawn, closed, unmapped, d₃, later, by simp, hopen, hdraw, hclose⟩

/-- The pattern covers the pixels and nothing else.  If a trial of a buffer maps it, then
before it unmaps the buffer again every byte of the pixels is the number of its row, and
all other bytes, those of the header among them, are as they were.  The pixels are cut
into as many pieces as the buffer has rows, each of them as long as the pitch, which is
not zero. -/
theorem pattern_covers_pixels (hnew : (Driver.new backend).Runs opening start)
    (run : Ran (perform pageSize) start history d) (hs : d.surface? id = some s)
    (hmap : options.map = true)
    (exercised : (exercise pageSize d id options).Runs t (r, d'))
    (hmapped : ∀ cause, r ≠ .error (.map cause)) :
    ∃ opened place d₁ drawn closed unmapped d₂ later pixels, ∃ m : Mapping,
      t = opened ++ drawn ++ closed ++ later ∧
      (d.perform pageSize (.map id)).Runs opened (.ok place, d₁) ∧
      (d₁.perform pageSize (.unmap id)).Runs closed (unmapped, d₂) ∧
      m = ⟨place, s.geometry.size⟩ ∧ d₁.surface? id = some { s with mapping := some m } ∧
      (∀ memory : Memory,
        (∀ row < s.height.toNat, ∀ column < s.geometry.pitch.toNat,
          memory.after drawn (m.byte (s.geometry.offset + row * s.geometry.pitch.toNat + column)) =
            UInt8.ofNat row) ∧
        (∀ i < s.geometry.offset, memory.after drawn (m.byte i) = memory (m.byte i)) ∧
        ∀ a, (∀ i, s.geometry.offset ≤ i → i < s.geometry.size → a ≠ m.byte i) →
          memory.after drawn a = memory a) ∧
      ({ s with mapping := some m } : Surface).pixels? = some pixels ∧
      0 < s.geometry.pitch.toNat ∧
      (pixels.chunks s.geometry.pitch.toNat).length = s.height.toNat ∧
      ∀ piece ∈ pixels.chunks s.geometry.pitch.toNat, piece.length = s.geometry.pitch.toNat := by
  have fitted := fitted_of_ran hnew run hs
  obtain ⟨opened, place, d₁, drawn, closed, unmapped, d₂, later, rfl, hopen, hdraw, hclose⟩ :=
    exercise_maps hs hmap exercised hmapped
  have fitted' : ({ s with mapping := some ⟨place, s.geometry.size⟩ } : Surface).Fitted :=
    fitted.withMapping fun m hm => by cases hm; rfl
  obtain ⟨pixels, hpixels, hchunks⟩ := fitted'.chunks_eq rfl
  have hdrawn := drawPattern_drawn fitted' rfl _ _ hdraw
  refine ⟨opened, place, d₁, _ :: drawn, closed, unmapped, d₂, later, pixels, _, rfl, hopen, hclose,
    rfl, surface?_of_map hs hopen, fun memory => ?_, hpixels, fitted.pitch_pos, ?_, ?_⟩
  · obtain ⟨hrow, helse⟩ := hdrawn memory
    have hsize := fitted.size_eq
    refine ⟨fun row hlt => hrow row (Nat.zero_le _) hlt, fun i hi => helse _ fun j hj _ heq => ?_,
      fun a ha => helse a fun i hle hlt => ha i ?_ ?_⟩
    · rw [Mapping.byte_inj] at heq
      simp only [Nat.zero_mul, Nat.add_zero] at hj
      omega
    · simpa using hle
    · rw [hsize]
      exact hlt
  · rw [hchunks, List.length_map, List.length_range]
  · intro piece hpiece
    rw [hchunks] at hpiece
    obtain ⟨i, -, rfl⟩ := List.mem_map.1 hpiece
    rfl

/-- A buffer with two rows in front of its pixels and an odd width. -/
theorem pattern_covers_pixels_sample :
    ∃ opening start history d s t d' before drawn after, ∃ m : Mapping,
      (Driver.new .vmwgfx).Runs opening start ∧ Ran (perform 4096) start history d ∧
      d.surface? .first = some s ∧ (s.geometry.offset, s.geometry.pitch, s.height) = (16, 8, 2) ∧
      (exercise 4096 d .first { map := true }).Runs t (.ok (), d') ∧ t = before ++ drawn ++ after ∧
      ∀ memory : Memory, memory.after drawn (m.byte 15) = memory (m.byte 15) ∧
        memory.after drawn (m.byte 16) = 0 ∧ memory.after drawn (m.byte 31) = 1 := by
  have hnew : (Driver.new .vmwgfx).play granted = some (_, .vmwgfx ∅) := rfl
  have hplay : (do
      let (history, d) ← playAll (perform 4096) granted (.vmwgfx ∅)
        [.create ⟨.rgb565, 16, 3, 2⟩ .general]
      let s ← d.surface? .first
      let (_, r, _) ← (exercise 4096 d .first { map := true }).play granted
      return (s.geometry, s.height, r)) =
    some (⟨⟨16, 2, none⟩, 8, 2, 32, 16⟩, 2, .ok ()) := rfl
  simp only [Option.bind_eq_bind, Option.bind_eq_some_iff, Prod.exists] at hplay
  obtain ⟨history, d, hops, s, hs, t, r, d', hexercise, heq⟩ := hplay
  obtain ⟨hgeometry, hheight, rfl⟩ := by
    simpa only [Option.pure_def, Option.some.injEq, Prod.mk.injEq] using heq
  obtain ⟨opened, place, d₁, drawn, closed, unmapped, d₂, later, pixels, m, ht, -, -, -, -,
      hmemory, -⟩ := pattern_covers_pixels (runs_of_play hnew) (ran_of_playAll hops) hs rfl
    (runs_of_play hexercise) (by simp)
  rw [hgeometry, hheight] at hmemory
  refine ⟨_, _, history, d, s, t, d', opened, drawn, closed ++ later, m, runs_of_play hnew,
    ran_of_playAll hops, hs, by rw [hgeometry, hheight], runs_of_play hexercise,
    by rw [ht, List.append_assoc], fun memory => ?_⟩
  obtain ⟨hpixels, hheader, -⟩ := hmemory memory
  exact ⟨hheader 15 (by decide), hpixels 0 (by decide) 0 (by decide),
    hpixels 1 (by decide) 7 (by decide)⟩

end Driver

end DrmSurface
