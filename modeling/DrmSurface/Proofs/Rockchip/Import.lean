import DrmSurface.Proofs.Rockchip.Stop

/-!
# When imports succeed

An import is accepted if its description is true and the object is large enough, and
then it succeeds, as long as a word counts the rows of the surface.  Otherwise it
stops, unless the device withholds the descriptor that the engine would need.

There are two groups: `imports_accept_iff` with two imports at the limit of a page, and
`accepted_import_stops`, an import at the limit of a word.
-/

namespace DrmSurface.Rockchip

open Prog
open Attempt hiding asks_pure ensures_bind_iff ensures_pure_iff

/-- A finished import has succeeded if and only if the geometry that the driver computes
has the pitch and the size that were stated.  An import by name also needs an object of
at least as many bytes, and an import by descriptor a descriptor of at least as
many, which have to be exactly as many if no size was stated.  The new buffer has the
geometry of a buffer that is created for the same surface.  A description that is not
true is refused before the device is asked for anything, and a descriptor is closed
if and only if its import fails.

In every world an import finishes or stops.  It stops if and only if it would have
succeeded with rows that a word does not count, and the buffer has come by a
descriptor. -/
theorem imports_accept_iff (pool : State) (desc : SurfaceDesc) (pitch : UInt32) :
    (∀ handle size?, (perform pool (.importHandle handle size? desc pitch)).Ends ∧
      (perform pool (.importHandle handle size? desc pitch)).Ensures
        (Settled desc (Stated desc pitch size?) fun _ origin => origin = { handle })) ∧
    (∀ name, (perform pool (.importName name desc pitch)).Ends ∧ ∀ opened,
      (perform pool (.importName name desc pitch)).Ensures fun t r =>
        Answered (.ioctl (.gemOpen name)) opened t →
        Settled desc (Stated desc pitch none) (GrantedByName name opened) t r ∧
          ∀ object, opened = .ok object → LiesWithin object.size r) ∧
    (∀ fd size?, (perform pool (.importPrime fd size? desc pitch)).Ends ∧
      ∀ fileSize granted, (perform pool (.importPrime fd size? desc pitch)).Ensures fun t r =>
        Answered (.size fd) fileSize t → Answered (.ioctl (.primeFdToHandle fd 0)) granted t →
        Settled desc (StatedByPrime fileSize size? desc pitch) (GrantedByPrime fd granted) t r ∧
          (∀ n, fileSize = .ok n → LiesWithin n r) ∧
          ((∃ e, r.1 = .error e) ↔ ⟨.close fd, ()⟩ ∈ t)) ∧
    (∀ placement, (perform pool (.create desc placement)).Ends ∧ ∀ allocated,
      (perform pool (.create desc placement)).Ensures fun t r =>
        (∀ g, Geometry.compute .rockchip desc = .ok g →
          Answered (.ioctl (.rockchipGemCreate g.size (placementFlags placement))) allocated t) →
        Settled desc (Geometry.compute .rockchip desc = .ok ·)
          (GrantedByAllocation placement allocated) t r) ∧
    ∀ op t cause, (perform pool op).Aborts t cause ↔ Stops pool op t := by
  refine ⟨fun handle size? => ⟨importHandle_ends, importHandle_settled⟩,
    fun name => ⟨importName_ends, fun opened => ?_⟩,
    fun fd size? => ⟨importPrime_ends, fun fileSize granted => ?_⟩,
    fun placement => ⟨create_ends, fun allocated => create_settled allocated⟩,
    fun op t cause => perform_aborts_iff⟩
  · refine Ensures.mono (importName_settled opened) fun t r h answered => ?_
    refine ⟨h answered, fun object hopened => (h answered).liesWithin fun g origin _ granted => ?_⟩
    obtain ⟨object', hopened', hfits, -⟩ := granted
    cases hopened.symm.trans hopened'
    exact hfits
  · refine Ensures.mono (importPrime_settled fileSize granted) fun t r h hsize hgranted => ?_
    obtain ⟨settled, hclosed⟩ := h hsize hgranted
    refine ⟨settled, fun n hfile => settled.liesWithin fun g origin stated _ => ?_, hclosed⟩
    obtain ⟨n', hfile', hfits, -, -, hsize⟩ := stated
    cases hfile.symm.trans hfile'
    simpa [Option.some.inj (hsize.resolve_left (by simp))] using hfits

/-- A world that grants every call, but the objects that it opens by their names have
less than a page. -/
def oneByteShort : (c : Call) → c.Answer
  | .ioctl (.gemOpen name) => .ok ⟨name, 4095⟩
  | c => granted c

/-- A surface of a page is refused by a name if its object is one byte too small, and
by a descriptor of a page it is accepted. -/
theorem imports_accept_iff_sample :
    ∃ opening history pool, Reached opening history pool ∧
      (∃ t r pool', Step perform pool ⟨.importName 3 ⟨.xrgb8888, 0, 32, 32⟩ 128, t, r⟩ pool' ∧
        ∃ e, r = .error e) ∧
      ∃ t id pool' b,
        Step perform pool ⟨.importPrime ⟨7⟩ none ⟨.xrgb8888, 0, 32, 32⟩ 128, t, .ok id⟩ pool' ∧
        pool'.get? id = some b ∧ b.surface.prime = some ⟨7⟩ ∧
        b.surface.geometry.size = 4096 ∧ ⟨.close ⟨7⟩, ()⟩ ∉ t := by
  have hmake : (playLife granted [.create ⟨.xrgb8888, 16, 8, 4⟩ .general]).isSome := rfl
  obtain ⟨⟨opening, history, pool, closing⟩, hlife⟩ := Option.isSome_iff_exists.1 hmake
  have hg : Geometry.compute .rockchip ⟨.xrgb8888, 0, 32, 32⟩ =
      .ok ⟨⟨32, 4, some 0x2900⟩, 128, 0, 4096, 0⟩ := rfl
  obtain ⟨-, byName, byPrime, -, stops⟩ := imports_accept_iff pool ⟨.xrgb8888, 0, 32, 32⟩ 128
  have safe : ∀ op, op.desc? = some ⟨.xrgb8888, 0, 32, 32⟩ → (perform pool op).Safe := by
    refine fun op hop => perform_safe fun desc g hdesc computed => ?_
    cases hop.symm.trans hdesc
    cases hg.symm.trans computed
    decide
  refine ⟨opening, history, pool, (life_of_playLife hlife).1, ?_, ?_⟩
  · obtain ⟨t, ⟨r, pool'⟩, run, hworld⟩ := (byName 3).1.finishes (safe _ rfl) oneByteShort
    obtain ⟨settled, -⟩ := (byName 3).2 _ t _ run (answered_of_world hworld _)
    refine ⟨t, r, pool', run, ?_⟩
    cases r with
    | error e => exact ⟨e, rfl⟩
    | ok id =>
      obtain ⟨g, origin, stated, object, hobject, hfits, -⟩ := settled.ok_iff.1 ⟨id, rfl⟩
      cases hobject
      cases hg.symm.trans stated.computed
      exact absurd hfits (by decide)
  · obtain ⟨t, ⟨r, pool'⟩, run, hworld⟩ := (byPrime ⟨7⟩ none).1.finishes (safe _ rfl) granted
    obtain ⟨settled, -, hclosed⟩ := (byPrime ⟨7⟩ none).2 _ _ t _ run
      (answered_of_world hworld _) (answered_of_world hworld _)
    obtain ⟨id, rfl⟩ := settled.ok_iff.2
      ⟨_, _, ⟨4096, rfl, Nat.le_refl _, hg, rfl, .inr rfl⟩, 7, rfl, rfl⟩
    obtain ⟨g, origin, ⟨_, -, -, stated⟩, ⟨handle, -, rfl⟩, made⟩ := settled.made id rfl
    obtain ⟨b, hb, hsurface⟩ := made.found
    cases hg.symm.trans stated.computed
    refine ⟨t, id, pool', b, run, hb, hsurface.prime_eq _ rfl, ?_, fun hmem => ?_⟩
    · rw [hsurface.geometry_eq]
    · obtain ⟨e, he⟩ := hclosed.2 hmem
      cases he

/-- A surface with as many rows of pixels as a word counts, and a header. -/
def tallest : SurfaceDesc := ⟨.xrgb8888, 4, 1, 4294967295⟩

theorem compute_tallest : Geometry.compute .rockchip tallest =
    .ok ⟨⟨32, 4, some 0x2900⟩, 4, 1, 17179869184, 4⟩ := rfl

/-- A handle is offered with a description that is true.  If the device grants every
call, then the import stops, and it has no result. -/
theorem accepted_import_stops :
    (∃ g, Stated tallest 4 none g) ∧
    (∃ t, (perform ∅ (.importHandle 1 none tallest 4)).Aborts t .addOverflow ∧
      ∀ x ∈ t, x.answer = granted x.call) ∧
    ∀ t r, (perform ∅ (.importHandle 1 none tallest 4)).Runs t r →
      ∃ x ∈ t, x.answer ≠ granted x.call := by
  have stated : Stated tallest 4 none _ := ⟨compute_tallest, rfl, .inl rfl⟩
  refine ⟨⟨_, stated⟩, ⟨_, perform_aborts_iff.2 ⟨_, _, _, ⟨1⟩, _, _, .importHandle stated,
    .exported rfl, by decide, rfl⟩, ?_⟩, fun t r run => ?_⟩
  · simp [granted, Origin.buffer, Surface.ofDesc]
  · by_contra hnone
    have hgranted : ∀ x ∈ t, x.answer = granted x.call := fun x hx =>
      by_contra fun h => hnone ⟨x, hx, h⟩
    have settled := importHandle_settled _ _ run
    obtain ⟨id, hid⟩ := settled.ok_iff.2 ⟨_, _, stated, rfl⟩
    obtain ⟨g, _, stated', rfl, made⟩ := settled.made id hid
    cases compute_tallest.symm.trans stated'.computed
    obtain ⟨-, answer, hmem, hwithheld⟩ := made.counted.resolve_left (by decide)
    exact absurd (hwithheld 1 (hgranted _ hmem)) (by decide)

end DrmSurface.Rockchip
