import DrmSurface.Proofs.Rockchip.Import

/-!
# Export and import by a prime descriptor

A driver accepts the buffers of another driver, or its own, under their prime
descriptors: an import that states the format, the size and the pitch of a buffer,
and a header of as many rows, recovers its whole geometry.  A buffer may have more
rows than a word counts, if it could not be shared when it was created.  An import
of it stops.

There are three groups.

* `openPrime_opened`, the conditions under which an import gets as far as a
  handle, and `size_of_stops`, those that an import that stops has met.
* `ImportedBy`, the buffer that an import makes, which keeps the descriptor that
  it was imported by.
* `round_trip_preserves_geometry`, for all buffers of all drivers, and
  `shared_buffer_cannot_return` with a buffer that has too many rows.
-/

namespace DrmSurface.Rockchip

open Prog
open Attempt hiding asks_pure ensures_bind_iff ensures_pure_iff

variable {pool pool' : State} {fd : Descriptor} {size? : Option Nat} {desc : SurfaceDesc}
  {g : Geometry}

/-! ## Opening -/

/-- The descriptor has a size, if that is asked for. -/
def HasSize (fd : Descriptor) (fileSize : Nat) (t : List Exchange) : Prop :=
  ∀ answer, ⟨.size fd, answer⟩ ∈ t → answer = .ok fileSize

/-- The device does not refuse a handle for the descriptor. -/
def GrantsHandle (fd : Descriptor) (t : List Exchange) : Prop :=
  ∀ cause, (⟨.ioctl (.primeFdToHandle fd 0), .error cause⟩ : Exchange) ∉ t

/-- A descriptor of some size is accepted if and only if the stated size, or else its own, is
that of the surface and not above its own. -/
theorem openPrime_opened (hg : Geometry.compute .rockchip desc = .ok g) (fileSize : Nat) :
    (openPrime fd size? desc g.pitch).run.Ensures fun t outcome =>
      HasSize fd fileSize t → GrantsHandle fd t →
        if size?.getD fileSize ≤ fileSize ∧ size?.getD fileSize = g.size then
          ∃ handle, outcome = .ok (g, handle)
        else ∃ error, outcome = .error error := by
  refine openPrime_opening.mono fun t outcome opening hsize hgrants => ?_
  cases opening with
  | sizeless e => cases hsize _ (List.mem_cons_self ..)
  | exceeding hexceeds =>
    cases hsize _ (List.mem_cons_self ..)
    rw [if_neg fun h => absurd h.1 (Nat.not_le.2 hexceeds)]
    exact ⟨_, rfl⟩
  | unstated hvalid =>
    cases hsize _ (List.mem_cons_self ..)
    rw [if_neg fun h => ?_]
    · exact ⟨_, rfl⟩
    · rw [(Geometry.validate_eq_ok_iff hg).2 ⟨h.2, rfl⟩] at hvalid
      cases hvalid
  | refused fits stated e => exact absurd (by simp) (hgrants e)
  | opened fits stated handle =>
    cases hsize _ (List.mem_cons_self ..)
    obtain ⟨hstated, rfl⟩ :=
      (Geometry.validate_eq_ok_iff hg).1 (validate_eq_ok_iff_stated.2 stated)
    rw [if_pos ⟨fits, hstated⟩]
    exact ⟨handle, rfl⟩

/-- An import that stops has found the size to be that of the surface, and the rows of the
surface not to fit a word. -/
theorem size_of_stops (hg : Geometry.compute .rockchip desc = .ok g) {fileSize : Nat}
    {t : List Exchange} (stops : Stops pool (.importPrime fd size? desc g.pitch) t)
    (hsize : HasSize fd fileSize t) :
    UInt32.size ≤ desc.height.toNat + g.headerRows.toNat ∧
      size?.getD fileSize ≤ fileSize ∧ size?.getD fileSize = g.size := by
  obtain ⟨_, _, _, _, _, _, granting, -, hlarge, rfl⟩ := stops
  cases granting with
  | importPrime hfits stated =>
    cases hg.symm.trans stated.computed
    cases hsize _ (List.mem_cons_self ..)
    exact ⟨hlarge, hfits, Option.some.inj (stated.size_eq.resolve_left (by simp))⟩

/-! ## Importing -/

/-- The surface of a buffer that was imported by a descriptor. -/
structure ImportedBy (fd : Descriptor) (desc : SurfaceDesc) (g : Geometry) (s : Surface) :
    Prop where
  prime_eq : s.prime = some fd
  format_eq : s.format = desc.format
  width_eq : s.width = desc.width
  height_eq : s.height = desc.height
  geometry_eq : s.geometry = g

theorem admitted_imports {handle : UInt32} :
    (admitted pool { handle, prime := some fd } desc g).Ensures fun _ r =>
      (∃ b, r.2.get? r.1 = some b ∧ ImportedBy fd desc g b.surface) ∧
        desc.height.toNat + g.headerRows.toNat < UInt32.size := by
  refine admitted_made.mono fun t r made => ⟨?_, ?_⟩
  · obtain ⟨b, hb, hsurface⟩ := made.found
    exact ⟨b, hb, hsurface.prime_eq fd rfl, hsurface.format_eq, hsurface.width_eq,
      hsurface.height_eq, hsurface.geometry_eq⟩
  · exact made.counted.resolve_right fun h => by cases h.1

theorem importPrime_imports (hg : Geometry.compute .rockchip desc = .ok g) (fileSize : Nat) :
    (importPrime pool fd size? desc g.pitch).Ensures fun t r =>
      HasSize fd fileSize t → GrantsHandle fd t →
        ((∃ id, r.1 = .ok id) ↔
          size?.getD fileSize ≤ fileSize ∧ size?.getD fileSize = g.size) ∧
        ∀ id, r.1 = .ok id → (∃ b, r.2.get? id = some b ∧ ImportedBy fd desc g b.surface) ∧
          desc.height.toNat + g.headerRows.toNat < UInt32.size := by
  refine ensures_bind_iff.2 ((openPrime_opened hg fileSize).mono fun t outcome h => ?_)
  cases outcome with
  | error e =>
    refine ensures_bind_iff.2 (ensures_call_iff.2 fun _ => ensures_pure_iff.2 ?_)
    intro hsize hgrants
    have hopened := h (fun answer hmem => hsize answer (List.mem_append_left _ hmem))
      fun cause hmem => hgrants cause (List.mem_append_left _ hmem)
    split at hopened
    · obtain ⟨_, hok⟩ := hopened
      cases hok
    · rename_i hnot
      exact ⟨iff_of_false (by simp) hnot, fun _ hok => by cases hok⟩
  | ok opened =>
    refine ensures_bind_iff.2 fun t' r run => ensures_pure_iff.2 ?_
    intro hsize hgrants
    have hopened := h (fun answer hmem => hsize answer (List.mem_append_left _ hmem))
      fun cause hmem => hgrants cause (List.mem_append_left _ hmem)
    split at hopened
    · rename_i hfits
      obtain ⟨handle, heq⟩ := hopened
      cases heq
      refine ⟨iff_of_true ⟨_, rfl⟩ hfits, fun id hid => ?_⟩
      cases hid
      exact admitted_imports _ _ run
    · obtain ⟨_, herror⟩ := hopened
      cases herror

/-! ## Round trips -/

/-- The import of a buffer by a descriptor finishes or stops, whatever driver has made
the buffer and whatever driver imports it.  A finished import has succeeded if and only
if the descriptor is as large as the buffer, or at least as large if the size of the
buffer is stated.  It has the format, the size and the geometry of the buffer, and it
keeps the descriptor.  Its header is any one that takes as many rows, such as all
bytes in front of the pixels.

Only a buffer whose rows fit a word can be imported.  If they do not, then its import
stops where it would have succeeded otherwise. -/
theorem round_trip_preserves_geometry {opening : List Exchange} {history : List Episode}
    {id : BufferId} {b : Buffer} (reached : Reached opening history pool)
    (hb : pool.get? id = some b) :
    (b.surface.geometry.offset < UInt32.size →
      headerRows (UInt32.ofNat b.surface.geometry.offset) b.surface.geometry.pitch =
        b.surface.geometry.headerRows) ∧
    ∀ fd desc, desc.format = b.surface.format → desc.width = b.surface.width →
      desc.height = b.surface.height →
      headerRows desc.headerSize b.surface.geometry.pitch = b.surface.geometry.headerRows →
      ∀ other size?,
        (perform other (.importPrime fd size? desc b.surface.geometry.pitch)).Ends ∧
        (∀ t r other' fileSize,
          Step perform other ⟨.importPrime fd size? desc b.surface.geometry.pitch, t, r⟩ other' →
          HasSize fd fileSize t → GrantsHandle fd t →
            (size? = some b.surface.geometry.size →
              ((∃ id', r = .ok id') ↔ b.surface.geometry.size ≤ fileSize)) ∧
            (size? = none → ((∃ id', r = .ok id') ↔ fileSize = b.surface.geometry.size)) ∧
            ∀ id', r = .ok id' → b.surface.rows < UInt32.size ∧
              ∃ b', other'.get? id' = some b' ∧ b'.surface.prime = some fd ∧
                b'.surface.format = b.surface.format ∧ b'.surface.width = b.surface.width ∧
                b'.surface.height = b.surface.height ∧
                b'.surface.geometry = b.surface.geometry) ∧
        ∀ t cause fileSize,
          (perform other (.importPrime fd size? desc b.surface.geometry.pitch)).Aborts t cause →
          HasSize fd fileSize t → UInt32.size ≤ b.surface.rows ∧
            (size? = some b.surface.geometry.size → b.surface.geometry.size ≤ fileSize) ∧
            (size? = none → fileSize = b.surface.geometry.size) := by
  obtain ⟨desc₀, hg₀, hformat₀, hwidth₀, hheight₀⟩ := (reached.sound hb).laidOut
  refine ⟨Geometry.headerRows_of_offset hg₀, ?_⟩
  intro fd desc hformat hwidth hheight hrows other size?
  have hg : Geometry.compute .rockchip desc = .ok b.surface.geometry :=
    Geometry.compute_of_headerRows hg₀ (hformat.trans hformat₀.symm) (hwidth.trans hwidth₀.symm)
      (hheight.trans hheight₀.symm) hrows
  refine ⟨importPrime_ends, fun t r other' fileSize now hsize hgrants => ?_,
    fun t cause fileSize stops hsize => ?_⟩
  · obtain ⟨hiff, himports⟩ := importPrime_imports hg fileSize _ _ now hsize hgrants
    refine ⟨?_, ?_, fun id' hid' => ?_⟩
    · rintro rfl
      simpa using hiff
    · rintro rfl
      simpa using hiff
    · obtain ⟨⟨b', hb', himported⟩, hfits⟩ := himports id' hid'
      rw [hheight] at hfits
      exact ⟨hfits, b', hb', himported.prime_eq, himported.format_eq.trans hformat,
        himported.width_eq.trans hwidth, himported.height_eq.trans hheight,
        himported.geometry_eq⟩
  · obtain ⟨hlarge, hfits, hexact⟩ := size_of_stops hg (perform_aborts_iff.1 stops) hsize
    rw [hheight] at hlarge
    refine ⟨hlarge, ?_, ?_⟩
    · rintro rfl
      exact hfits
    · rintro rfl
      exact hexact

/-- A buffer with one header row is exported by one driver and imported by another. -/
theorem round_trip_preserves_geometry_sample :
    ∃ opening history pool b t₀ t other' id' b', Reached opening history pool ∧
      pool.get? .first = some b ∧
      Step perform pool ⟨.exportPrime .first, t₀, .ok ⟨161⟩⟩ pool ∧
      Step perform ∅ ⟨.importPrime ⟨161⟩ (some 160) ⟨.xrgb8888, 32, 8, 4⟩ 32, t, .ok id'⟩ other' ∧
      other'.get? id' = some b' ∧ b'.surface.prime = some ⟨161⟩ ∧
      b'.surface.geometry = b.surface.geometry := by
  have hmake : (playLife granted [.create ⟨.xrgb8888, 16, 8, 4⟩ .general]).bind (fun r =>
      ((perform r.2.2.1 (.exportPrime .first)).play granted).map fun e =>
        ((r.2.2.1.get? .first).map (·.surface), e.2.1)) =
      some (some ⟨.first, 160, none, some ⟨160⟩, .xrgb8888, 8, 4,
        ⟨⟨32, 4, some 0x2900⟩, 32, 1, 160, 32⟩, false, none⟩, .ok ⟨161⟩) := rfl
  obtain ⟨⟨opening, history, pool, closing⟩, hlife, hexport⟩ := Option.bind_eq_some_iff.1 hmake
  obtain ⟨⟨t₀, r₀, pool₀⟩, hexported, heq⟩ := Option.map_eq_some_iff.1 hexport
  obtain ⟨hsome, rfl⟩ := Prod.mk.inj heq
  obtain ⟨b, hb, hsurface⟩ := Option.map_eq_some_iff.1 hsome
  have exported := runs_of_play hexported
  obtain rfl : pool₀ = pool := (run_of_observe exported).2
  have himport : ((perform ∅ (.importPrime ⟨161⟩ (some 160) ⟨.xrgb8888, 32, 8, 4⟩ 32)).play
      granted).map (fun r => r.2.1) = some (.ok .first) := rfl
  obtain ⟨⟨t, r, other'⟩, hrun, rfl⟩ := Option.map_eq_some_iff.1 himport
  have himported := runs_of_play hrun
  have hsize : HasSize ⟨161⟩ 4096 t := fun _ hmem => answer_of_play hrun _ hmem
  have hgrants : GrantsHandle ⟨161⟩ t := by
    intro cause hmem
    cases answer_of_play hrun _ hmem
  have hround := (round_trip_preserves_geometry (life_of_playLife hlife).1 hb).2 ⟨161⟩
    ⟨.xrgb8888, 32, 8, 4⟩
  rw [hsurface] at hround
  obtain ⟨-, hfinished, -⟩ := hround rfl rfl rfl rfl ∅ (some 160)
  obtain ⟨-, -, hok⟩ := hfinished t (.ok .first) other' 4096 himported hsize hgrants
  obtain ⟨-, b', hb', hprime, -, -, -, hgeometry⟩ := hok _ rfl
  exact ⟨opening, history, pool₀, b, t₀, t, other', .first, b', (life_of_playLife hlife).1, hb,
    exported, himported, hb', hprime, by rw [hsurface]; exact hgeometry⟩

/-- A buffer that could not be shared at first has one row more than a word counts.  Its
descriptor is exported later, it is as large as the buffer, and the import by it
stops. -/
theorem shared_buffer_cannot_return :
    ∃ opening history pool b t₀ t, Reached opening history pool ∧ pool.get? .first = some b ∧
      b.surface.geometry.size = 17179869184 ∧ b.surface.rows = UInt32.size ∧
      Step perform pool ⟨.exportPrime .first, t₀, .ok ⟨0⟩⟩ pool ∧
      (perform pool (.importPrime ⟨0⟩ (some 17179869184) tallest 4)).Aborts t .addOverflow ∧
      HasSize ⟨0⟩ 17179869184 t ∧ GrantsHandle ⟨0⟩ t := by
  have hmake : (playLife withholdsDescriptors [.create tallest .general]).bind (fun r =>
      ((perform r.2.2.1 (.exportPrime .first)).play granted).map fun e =>
        ((r.2.2.1.get? .first).map (·.surface), e.2.1)) =
      some (some ⟨.first, 0, none, none, .xrgb8888, 1, 4294967295,
        ⟨⟨32, 4, some 0x2900⟩, 4, 1, 17179869184, 4⟩, false, none⟩, .ok ⟨0⟩) := rfl
  obtain ⟨⟨opening, history, pool, closing⟩, hlife, hexport⟩ := Option.bind_eq_some_iff.1 hmake
  obtain ⟨⟨t₀, r₀, pool₀⟩, hexported, heq⟩ := Option.map_eq_some_iff.1 hexport
  obtain ⟨hsome, rfl⟩ := Prod.mk.inj heq
  obtain ⟨b, hb, hsurface⟩ := Option.map_eq_some_iff.1 hsome
  have exported := runs_of_play hexported
  obtain rfl : pool₀ = pool := (run_of_observe exported).2
  have stated : Stated tallest 4 (some 17179869184) _ := ⟨compute_tallest, rfl, .inr rfl⟩
  have stops : Stops pool₀ (.importPrime ⟨0⟩ (some 17179869184) tallest 4) _ :=
    ⟨_, _, { handle := 0, prime := some ⟨0⟩ }, _, _, _,
      .importPrime (n := 17179869184) (Nat.le_refl _) stated, .kept rfl, by decide, rfl⟩
  refine ⟨opening, history, pool₀, b, t₀, _, (life_of_playLife hlife).1, hb, ?_, ?_, exported,
    perform_aborts_iff.2 stops, ?_, ?_⟩
  · rw [hsurface]
  · rw [hsurface]
    rfl
  · simp [HasSize]
  · simp [GrantsHandle]

end DrmSurface.Rockchip
