import DrmSurface.Proofs.Exact
import DrmSurface.Proofs.Rockchip.Bounds
import DrmSurface.Proofs.Rockchip.Prepared

/-!
# Operations on whole buffers

A copy, a turn and a mirror image go from all pixels of one buffer to all pixels of
another.  The three look at the same five things in different orders: the buffers,
their views, their heights, the transform and the sizes.  Then they ask the
engine to judge the request and, if it agrees, to run it.

There are five groups.

* `Whole`, the three operations as one, with a table of what each of them asks of the
  engine and what leads back.
* Bounds.  The width and the header rows of a buffer are coordinates of the engine,
  so its height alone decides whether its pixels are a rectangle.
* `Admissible` and `Barred`, the conditions for an engine call and the reasons
  against one.
* The runs of an operation, which are those of its request or of a refusal.
* `whole_operations`, for all three in any state that a driver reaches.
-/

namespace DrmSurface

/-- The transform that undoes a transform. -/
def CopyOp.inverse : CopyOp → CopyOp
  | rot90 => rot270
  | rot270 => rot90
  | op => op

namespace Rockchip

open Prog
open Attempt hiding asks_pure ensures_bind_iff ensures_pure_iff

/-! ## The three operations -/

/-- An operation on all pixels of two buffers. -/
inductive Whole where
  | copy
  | rotate (op : CopyOp)
  | flip (op : CopyOp)

namespace Whole

-- The driver is held to the next two definitions, which use nothing of the driver.

/-- The word that asks the engine for the operation.  There is none for a transform
of another operation. -/
def word? : Whole → Option UInt32
  | copy => some 0x80000
  | rotate .rot90 => some 0x1
  | rotate .rot180 => some 0x2
  | rotate .rot270 => some 0x4
  | flip .flipH => some 0x8
  | flip .flipV => some 0x10
  | flip .flipHV => some 0x20
  | rotate _ | flip _ => none

/-- Whether the operation exchanges width and height. -/
def transposes : Whole → Bool
  | rotate .rot90 | rotate .rot270 => true
  | _ => false

/-- The slot of the operation. -/
def slot : Whole → Slot
  | copy => .copy
  | rotate _ => .rotate
  | flip _ => .flip

/-- The operation that undoes the operation. -/
def inverse : Whole → Whole
  | copy => copy
  | rotate op => rotate op.inverse
  | flip op => flip op.inverse

/-- The sizes of two surfaces suit the operation. -/
def Fits (w : Whole) (s s' : Surface) : Prop :=
  if w.transposes then s.width = s'.height ∧ s.height = s'.width
  else s.width = s'.width ∧ s.height = s'.height

/-- The attempt of the driver. -/
def attempt (w : Whole) (pool : State) (src dst : BufferId) : Attempt Unit :=
  match w with
  | copy => Rockchip.copy pool src dst
  | rotate op => Rockchip.rotate pool src dst op
  | flip op => Rockchip.flip pool src dst op

/-- The operation can take place with these calls and this result. -/
def Performs (w : Whole) (pool : State) (src dst : BufferId) (t : List Exchange)
    (r : Except DriverError Unit) (pool' : State) : Prop :=
  match w with
  | copy => Step perform pool ⟨.copy src dst, t, r⟩ pool'
  | rotate op => Step perform pool ⟨.rotate src dst op, t, r⟩ pool'
  | flip op => Step perform pool ⟨.flip src dst op, t, r⟩ pool'

end Whole

variable {w : Whole} {pool pool' : State} {src dst id : BufferId} {b source target : Buffer}
  {t : List Exchange} {r : Except DriverError Unit}

theorem performs_iff :
    w.Performs pool src dst t r pool' ↔ (w.attempt pool src dst).run.Runs t r ∧ pool' = pool := by
  cases w <;> exact runs_observe_iff

namespace Whole

/-! ### The driver keeps to the table -/

theorem word?_rotate (op : CopyOp) :
    (rotate op).word? = if op.isRotation then some op.usage.bits else none := by
  cases op <;> rfl

theorem word?_flip (op : CopyOp) :
    (flip op).word? = if op.isFlip then some op.usage.bits else none := by
  cases op <;> rfl

theorem transposes_rotate (op : CopyOp) : (rotate op).transposes = op.swapsAxes := by
  cases op <;> rfl

/-! ### The way back -/

theorem isSome_word?_inverse : w.inverse.word?.isSome = w.word?.isSome := by
  cases w with
  | copy => rfl
  | rotate op | flip op => cases op <;> rfl

theorem transposes_inverse : w.inverse.transposes = w.transposes := by
  cases w with
  | copy => rfl
  | rotate op | flip op => cases op <;> rfl

theorem fits_inverse_iff {s s' : Surface} : w.inverse.Fits s' s ↔ w.Fits s s' := by
  rw [Fits, Fits, transposes_inverse]
  split <;> grind

theorem inverse_inverse (w : Whole) : w.inverse.inverse = w := by
  cases w with
  | copy => rfl
  | rotate op | flip op => cases op <;> rfl

end Whole

/-! ## Bounds -/

theorem two_le_cpp {format : Fourcc} {layout : PixelLayout}
    (h : FormatTable.rockchip.resolve format = some layout) : 2 ≤ layout.cpp.toNat := by
  obtain ⟨entry, hfind, rfl⟩ := Option.map_eq_some_iff.1 h
  have hall : ∀ entry ∈ FormatTable.engineFormats, 2 ≤ entry.2.1.toNat := by decide
  exact hall entry (List.mem_of_find?_eq_some hfind)

/-- The widths and the header rows of buffers are coordinates of the engine. -/
theorem Sound.le_maxCoordinate (sound : Sound id b) :
    b.surface.width.toNat ≤ maxCoordinate ∧
      b.surface.geometry.headerRows.toNat ≤ maxCoordinate := by
  obtain ⟨desc, hcompute, -, hwidth, -⟩ := sound.laidOut
  obtain ⟨exact, nonempty⟩ := Geometry.exact_of_compute hcompute
  constructor
  · -- A row is below 4 GiB, and a pixel takes two bytes of it at least.
    have hrow : b.surface.width.toNat * b.surface.geometry.layout.cpp.toNat ≤
        b.surface.geometry.pitch.toNat := by
      rw [← hwidth]
      exact exact.pitch_least.1.2
    have hpixel := Nat.mul_le_mul_left b.surface.width.toNat (two_le_cpp exact.layout_eq)
    have hpitch := b.surface.geometry.pitch.toNat_lt
    simp only [maxCoordinate]
    omega
  · -- A row has four bytes at least, so a header has fewer rows than a quarter of its bytes.
    have hpitch : 4 ≤ b.surface.geometry.pitch.toNat :=
      Nat.le_of_dvd (toNat_pos_of_ne_zero (exact.pitch_ne_zero nonempty)) exact.pitch_least.1.1
    have hholds : desc.headerSize.toNat ≤ maxCoordinate * b.surface.geometry.pitch.toNat := by
      have hrows := Nat.mul_le_mul_left maxCoordinate hpitch
      have hheader := desc.headerSize.toNat_lt
      simp only [maxCoordinate] at hrows ⊢
      omega
    exact exact.headerRows_least.2 hholds

/-- All pixels of a buffer, below its header rows. -/
def pixelsOf (b : Buffer) : EngineRect :=
  ⟨0, b.surface.geometry.headerRows.toNat, b.surface.width.toNat, b.surface.height.toNat⟩

theorem wholeRect_eq (sound : Sound id b) :
    wholeRect b = if b.surface.height.toNat ≤ maxCoordinate then pure (pixelsOf b)
      else throw .outOfBounds := by
  obtain ⟨hwidth, hrows⟩ := sound.le_maxCoordinate
  have hrect : (Rect.full b.surface.width b.surface.height).toEngine?
      b.surface.geometry.headerRows =
      if b.surface.height.toNat ≤ maxCoordinate then some (pixelsOf b) else none := by
    simp only [Rect.toEngine?, Rect.full, pixelsOf, zero_add, Int.ofNat_le, hwidth, hrows,
      true_and]
  rw [wholeRect, hrect]
  split <;> rfl

/-! ## Admissibility -/

/-- What the buffers of an operation have to be for an engine call. -/
structure Suits (w : Whole) (source target : Buffer) : Prop where
  source_wrapped : source.view.isSome
  target_wrapped : target.view.isSome
  source_height : source.surface.height.toNat ≤ 0x7fffffff
  target_height : target.surface.height.toNat ≤ 0x7fffffff
  supported : w.word?.isSome
  fits : w.Fits source.surface target.surface

/-- The operation can make an engine call. -/
def Admissible (pool : State) (w : Whole) (src dst : BufferId) : Prop :=
  ∃ source target, pool.get? src = some source ∧ pool.get? dst = some target ∧
    Suits w source target

/-- The reasons for which an operation makes no engine call, with their errors. -/
inductive Barred (pool : State) (w : Whole) (src dst : BufferId) : DriverError → Prop where
  | missing {id : BufferId} (side : id = src ∨ id = dst) (h : pool.get? id = none) :
      Barred pool w src dst (.noSuchBuffer id)
  | unwrapped {id : BufferId} {b : Buffer} (side : id = src ∨ id = dst)
      (found : pool.get? id = some b) (h : b.view = none) :
      Barred pool w src dst (.notAccelerated id)
  | tall {id : BufferId} {b : Buffer} (side : id = src ∨ id = dst)
      (found : pool.get? id = some b) (h : 0x7fffffff < b.surface.height.toNat) :
      Barred pool w src dst .outOfBounds
  | unsupported (h : w.word? = none) : Barred pool w src dst (.unsupportedTransform w.slot)
  | mismatched {source target : Buffer} (hsrc : pool.get? src = some source)
      (hdst : pool.get? dst = some target) (h : ¬ w.Fits source.surface target.surface) :
      Barred pool w src dst .dimensionMismatch

theorem Barred.not_admissible {error : DriverError} (h : Barred pool w src dst error) :
    ¬ Admissible pool w src dst := by
  rintro ⟨source, target, hsource, htarget, suits⟩
  cases h with
  | missing side hnone => rcases side with rfl | rfl <;> simp_all
  | unwrapped side found hnone =>
    rcases side with rfl | rfl
    · cases hsource.symm.trans found
      simpa [hnone] using suits.source_wrapped
    · cases htarget.symm.trans found
      simpa [hnone] using suits.target_wrapped
  | tall side found htall =>
    rcases side with rfl | rfl
    · cases hsource.symm.trans found
      exact absurd suits.source_height (Nat.not_le.2 htall)
    · cases htarget.symm.trans found
      exact absurd suits.target_height (Nat.not_le.2 htall)
  | unsupported hnone => simpa [hnone] using suits.supported
  | mismatched hsrc hdst hnot =>
    cases hsource.symm.trans hsrc
    cases htarget.symm.trans hdst
    exact hnot suits.fits

theorem Suits.inverse (h : Suits w source target) : Suits w.inverse target source where
  source_wrapped := h.target_wrapped
  target_wrapped := h.source_wrapped
  source_height := h.target_height
  target_height := h.source_height
  supported := by rw [Whole.isSome_word?_inverse, h.supported]
  fits := Whole.fits_inverse_iff.2 h.fits

/-- What leads from one buffer to another is admissible if what leads back is. -/
theorem admissible_inverse_iff :
    Admissible pool w.inverse dst src ↔ Admissible pool w src dst := by
  constructor
  · rintro ⟨source, target, hsource, htarget, suits⟩
    have hback := suits.inverse
    rw [Whole.inverse_inverse] at hback
    exact ⟨target, source, htarget, hsource, hback⟩
  · rintro ⟨source, target, hsource, htarget, suits⟩
    exact ⟨target, source, htarget, hsource, suits.inverse⟩

/-! ## Runs -/

/-- The buffers and their views, as far as they do not bar an operation. -/
structure Paired (pool : State) (src dst : BufferId) (pair : WholePair) (source target : Buffer) :
    Prop where
  source_eq : pool.get? src = some source
  target_eq : pool.get? dst = some target
  source_view : source.view = some pair.srcView
  target_view : target.view = some pair.dstView
  source_height : source.surface.height.toNat ≤ 0x7fffffff
  target_height : target.surface.height.toNat ≤ 0x7fffffff
  source_rect : pair.srcRect = pixelsOf source
  target_rect : pair.dstRect = pixelsOf target

theorem viewed_decides {E : DriverError → Prop}
    (h : b.view = none → E (.notAccelerated b.surface.id)) :
    (viewed b).Decides (fun view => b.view = some view) E :=
  decides_ofOption h

theorem wholeRect_decides (sound : Sound id b) {E : DriverError → Prop}
    (h : maxCoordinate < b.surface.height.toNat → E .outOfBounds) :
    (wholeRect b).Decides
      (fun r => r = pixelsOf b ∧ b.surface.height.toNat ≤ maxCoordinate) E := by
  rw [wholeRect_eq sound]
  split
  · rename_i hheight
    exact decides_pure ⟨rfl, hheight⟩
  · rename_i hheight
    exact decides_throw (h (Nat.not_le.1 hheight))

/-- There is a pair for the two buffers, or they bar every operation. -/
theorem wholePair_decides (sound : AllSound pool) (w : Whole) (src dst : BufferId) :
    (wholePair pool src dst).Decides
      (fun pair => ∃ source target, Paired pool src dst pair source target)
      (Barred pool w src dst) := by
  refine (decides_ofOption (.missing (.inl rfl))).bind fun source hsource => ?_
  refine (decides_ofOption (.missing (.inr rfl))).bind fun target htarget => ?_
  have hsound := sound hsource
  have hsound' := sound htarget
  refine (viewed_decides fun hview => ?_).bind fun srcView hsrcView => ?_
  · rw [hsound.id_eq]
    exact .unwrapped (.inl rfl) hsource hview
  refine (viewed_decides fun hview => ?_).bind fun dstView hdstView => ?_
  · rw [hsound'.id_eq]
    exact .unwrapped (.inr rfl) htarget hview
  refine (wholeRect_decides hsound (.tall (.inl rfl) hsource)).bind fun srcRect hsrcRect => ?_
  refine (wholeRect_decides hsound' (.tall (.inr rfl) htarget)).bind fun dstRect hdstRect => ?_
  exact decides_pure ⟨source, target, hsource, htarget, hsrcView, hdstView, hsrcRect.2,
    hdstRect.2, hsrcRect.1, hdstRect.1⟩

theorem Paired.sameSize_iff {pair : WholePair} (h : Paired pool src dst pair source target) :
    pair.srcRect.SameSize pair.dstRect ↔ source.surface.width = target.surface.width ∧
      source.surface.height = target.surface.height := by
  simp only [EngineRect.SameSize, h.source_rect, h.target_rect, pixelsOf, Int.natCast_inj,
    UInt32.toNat_inj]

theorem Paired.turnFits_iff {pair : WholePair} (h : Paired pool src dst pair source target)
    {op : CopyOp} : TurnFits op pair.srcRect pair.dstRect ↔
      (Whole.rotate op).Fits source.surface target.surface := by
  simp only [TurnFits, EngineRect.SameSize, EngineRect.TransposedSize, h.source_rect,
    h.target_rect, pixelsOf, Int.natCast_inj, UInt32.toNat_inj, Whole.Fits,
    Whole.transposes_rotate]

/-- What becomes of an operation whose buffers do not bar it depends on the
transform and on the sizes. -/
theorem attempt_of_paired {pair : WholePair} (hpair : wholePair pool src dst = pure pair)
    (paired : Paired pool src dst pair source target) :
    (∃ word, w.word? = some word ∧ w.Fits source.surface target.surface ∧
        w.attempt pool src dst = processWhole pair ⟨word⟩) ∨
      ∃ error, w.attempt pool src dst = throw error ∧ Barred pool w src dst error := by
  have mismatched (h : ¬ w.Fits source.surface target.surface) :
      Barred pool w src dst .dimensionMismatch :=
    .mismatched paired.source_eq paired.target_eq h
  cases w with
  | copy =>
    simp only [Whole.attempt, copy, hpair, pure_bind]
    split
    · exact .inl ⟨_, rfl, paired.sameSize_iff.1 ‹_›, rfl⟩
    · exact .inr ⟨_, rfl, mismatched (mt paired.sameSize_iff.2 ‹_›)⟩
  | rotate op =>
    have hword := Whole.word?_rotate op
    simp only [Whole.attempt, rotate, hpair, pure_bind]
    split
    · rename_i hclass
      rw [if_pos hclass] at hword
      split
      · exact .inl ⟨_, hword, paired.turnFits_iff.1 ‹_›, rfl⟩
      · exact .inr ⟨_, rfl, mismatched (mt paired.turnFits_iff.2 ‹_›)⟩
    · rename_i hclass
      rw [if_neg hclass] at hword
      exact .inr ⟨_, rfl, .unsupported hword⟩
  | flip op =>
    have hword := Whole.word?_flip op
    simp only [Whole.attempt, flip, hpair, pure_bind]
    split
    · split
      · rename_i hclass
        rw [if_pos hclass] at hword
        exact .inl ⟨_, hword, paired.sameSize_iff.1 ‹_›, rfl⟩
      · rename_i hclass
        rw [if_neg hclass] at hword
        exact .inr ⟨_, rfl, .unsupported hword⟩
    · exact .inr ⟨_, rfl, mismatched (mt paired.sameSize_iff.2 ‹_›)⟩

/-- An operation is a request about all pixels, or it is barred. -/
theorem attempt_cases (sound : AllSound pool) (w : Whole) (src dst : BufferId) :
    (∃ word pair source target, w.word? = some word ∧ Paired pool src dst pair source target ∧
      Suits w source target ∧ w.attempt pool src dst = processWhole pair ⟨word⟩) ∨
    ∃ error, w.attempt pool src dst = throw error ∧ Barred pool w src dst error := by
  rcases wholePair_decides sound w src dst with
    ⟨pair, hpair, source, target, paired⟩ | ⟨error, hpair, barred⟩
  · refine (attempt_of_paired hpair paired).imp_left ?_
    rintro ⟨word, hword, fits, hattempt⟩
    exact ⟨word, pair, source, target, hword, paired,
      ⟨Option.isSome_of_eq_some paired.source_view, Option.isSome_of_eq_some paired.target_view,
        paired.source_height, paired.target_height, Option.isSome_of_eq_some hword, fits⟩,
      hattempt⟩
  · refine .inr ⟨error, ?_, barred⟩
    cases w <;> simp only [Whole.attempt, copy, rotate, flip, hpair] <;> rfl

/-- A check that the engine refuses. -/
def refused (pair : WholePair) (usage : Usage) (e : EngineError) : List Exchange :=
  [⟨.engine (.check (some pair.srcView) pair.dstView pair.srcRect pair.dstRect usage), .error e⟩,
    ⟨.log (notice (.engineFailed e)), ()⟩]

/-- A check that the engine passes, and the composition after it. -/
def processed (pair : WholePair) (usage : Usage) (answer : Except EngineError Unit) :
    List Exchange :=
  passed (some pair.srcView) pair.dstView pair.srcRect pair.dstRect usage ::
    composition pair.srcView pair.dstView pair.srcRect pair.dstRect {} usage answer

theorem runs_processWhole_iff {pair : WholePair} {usage : Usage} :
    (processWhole pair usage).run.Runs t r ↔
      (∃ e, t = refused pair usage e ∧ r = .error (.engine e)) ∨
      ∃ answer, t = processed pair usage answer ∧ r = answer.mapError .engine := by
  refine Attempt.runs_request_iff.trans ?_
  constructor
  · rintro ⟨t₁, outcome, run, hrest⟩
    obtain rfl := runs_call_iff.1 run
    cases outcome with
    | ok u =>
      obtain ⟨t₂, rfl, htail⟩ := hrest
      obtain ⟨answer, rfl, rfl⟩ := runs_composition_iff.1 htail
      exact .inr ⟨answer, rfl, rfl⟩
    | error e =>
      obtain ⟨rfl, rfl⟩ := hrest
      exact .inl ⟨e, rfl, rfl⟩
  · rintro (⟨e, rfl, rfl⟩ | ⟨answer, rfl, rfl⟩)
    · exact ⟨_, .error e, runs_call_iff.2 rfl, rfl, rfl⟩
    · exact ⟨_, .ok (), runs_call_iff.2 rfl, _, rfl, runs_composition_iff.2 ⟨answer, rfl, rfl⟩⟩

/-! ## All three operations -/

/-- An admissible operation is one check of its pixels and, exactly if the check is
passed, one composition. -/
theorem performs_of_admissible (sound : AllSound pool) (h : Admissible pool w src dst) :
    ∃ word pair source target, w.word? = some word ∧ Paired pool src dst pair source target ∧
      ∀ t r pool', w.Performs pool src dst t r pool' ↔ pool' = pool ∧
        ((∃ e, t = refused pair ⟨word⟩ e ∧ r = .error (.engine e)) ∨
        ∃ answer, t = processed pair ⟨word⟩ answer ∧ r = answer.mapError .engine) := by
  rcases attempt_cases sound w src dst with
    ⟨word, pair, source, target, hword, paired, -, hattempt⟩ | ⟨error, -, barred⟩
  · refine ⟨word, pair, source, target, hword, paired, fun t r pool' => ?_⟩
    rw [performs_iff, hattempt, runs_processWhole_iff, and_comm]
  · exact absurd h barred.not_admissible

/-- Any other operation is refused without a call. -/
theorem performs_of_not_admissible (sound : AllSound pool) (h : ¬ Admissible pool w src dst) :
    ∃ error, Barred pool w src dst error ∧
      ∀ t r pool', w.Performs pool src dst t r pool' ↔
        pool' = pool ∧ t = [] ∧ r = .error error := by
  rcases attempt_cases sound w src dst with
    ⟨word, pair, source, target, -, paired, suits, -⟩ | ⟨error, hattempt, barred⟩
  · exact absurd ⟨source, target, paired.source_eq, paired.target_eq, suits⟩ h
  · refine ⟨error, barred, fun t r pool' => ?_⟩
    rw [performs_iff, hattempt, Attempt.runs_throw_iff, and_comm]

/-- An operation on whole buffers makes an engine call if and only if it is admissible,
and then it is one check and, exactly if the check is passed, one composition, both
about all pixels of the two buffers below their header rows and with the word of the
table.  Otherwise it is refused for a reason that bars it.  What leads back is
admissible if the operation is.  Of the coordinates of the pixels only the heights can
be too large. -/
theorem whole_operations {opening : List Exchange} {history : List Episode}
    (reached : Reached opening history pool) (w : Whole) (src dst : BufferId) :
    (∀ t r pool', w.Performs pool src dst t r pool' →
      ((∃ x ∈ t, ∃ request, x.call = .engine request) ↔ Admissible pool w src dst)) ∧
    (Admissible pool w src dst → ∃ word pair source target, w.word? = some word ∧
      Paired pool src dst pair source target ∧
      ∀ t r pool', w.Performs pool src dst t r pool' ↔ pool' = pool ∧
        ((∃ e, t = refused pair ⟨word⟩ e ∧ r = .error (.engine e)) ∨
        ∃ answer, t = processed pair ⟨word⟩ answer ∧ r = answer.mapError .engine)) ∧
    (¬ Admissible pool w src dst → ∃ error, Barred pool w src dst error ∧
      ∀ t r pool', w.Performs pool src dst t r pool' ↔
        pool' = pool ∧ t = [] ∧ r = .error error) ∧
    (Admissible pool w.inverse dst src ↔ Admissible pool w src dst) ∧
    ∀ id b, pool.get? id = some b → b.surface.width.toNat ≤ 0x7fffffff ∧
      b.surface.geometry.headerRows.toNat ≤ 0x7fffffff := by
  have sound : AllSound pool := reached.sound
  refine ⟨fun t r pool' h => ?_, performs_of_admissible sound, performs_of_not_admissible sound,
    admissible_inverse_iff, fun id b hb => (sound hb).le_maxCoordinate⟩
  by_cases hadmissible : Admissible pool w src dst
  · refine iff_of_true ?_ hadmissible
    obtain ⟨_, _, _, _, -, -, hperforms⟩ := performs_of_admissible sound hadmissible
    rcases ((hperforms t r pool').1 h).2 with ⟨e, rfl, -⟩ | ⟨answer, rfl, -⟩
    · exact ⟨_, List.mem_cons_self, _, rfl⟩
    · exact ⟨_, List.mem_cons_self, _, rfl⟩
  · refine iff_of_false ?_ hadmissible
    obtain ⟨error, -, hperforms⟩ := performs_of_not_admissible sound hadmissible
    obtain ⟨-, rfl, -⟩ := (hperforms t r pool').1 h
    simp

/-- A buffer of eight by four pixels below a header row is turned into one of four by
eight pixels, and it could be turned back. -/
theorem whole_operations_sample :
    ∃ opening history pool t pair source target, Reached opening history pool ∧
      Step perform pool ⟨.rotate .first BufferId.first.next .rot90, t, .ok ()⟩ pool ∧
      Paired pool .first BufferId.first.next pair source target ∧
      t = processed pair ⟨0x1⟩ (.ok ()) ∧
      pair.srcRect = ⟨0, 1, 8, 4⟩ ∧ pair.dstRect = ⟨0, 0, 4, 8⟩ ∧
      Admissible pool (.rotate .rot270) BufferId.first.next .first := by
  have hplay : (playLife granted [.create ⟨.xrgb8888, 16, 8, 4⟩ .general,
      .create ⟨.rgb565, 0, 4, 8⟩ .general]).bind (fun r =>
        ((perform r.2.2.1 (.rotate .first BufferId.first.next .rot90)).play granted).map fun e =>
          (e.1.any fun x => x.call.composes, e.2.1, (r.2.2.1.get? .first).map pixelsOf,
            (r.2.2.1.get? BufferId.first.next).map pixelsOf)) =
      some (true, .ok (), some ⟨0, 1, 8, 4⟩, some ⟨0, 0, 4, 8⟩) := rfl
  obtain ⟨⟨opening, history, pool, closing⟩, hlife, hturn⟩ := Option.bind_eq_some_iff.1 hplay
  obtain ⟨⟨t, r, pool'⟩, hrun, heq⟩ := Option.map_eq_some_iff.1 hturn
  obtain ⟨hcomposes, rfl, hsource, htarget⟩ := by simpa only [Prod.mk.injEq] using heq
  have reached := (life_of_playLife hlife).1
  have now : (Whole.rotate .rot90).Performs pool .first BufferId.first.next t (.ok ()) pool' :=
    runs_of_play hrun
  obtain ⟨hengine, hadmissible, -, hback, -⟩ :=
    whole_operations reached (.rotate .rot90) .first BufferId.first.next
  have admissible : Admissible pool (.rotate .rot90) .first BufferId.first.next := by
    refine (hengine _ _ _ now).1 ?_
    obtain ⟨x, hx, hcall⟩ := List.any_eq_true.1 hcomposes
    refine ⟨x, hx, ?_⟩
    cases hc : x.call with
    | engine request => exact ⟨request, rfl⟩
    | _ =>
      rw [hc] at hcall
      cases hcall
  obtain ⟨_, pair, source, target, ⟨⟩, paired, hperforms⟩ := hadmissible admissible
  obtain ⟨rfl, ⟨e, -, herror⟩ | ⟨⟨⟩ | ⟨⟨⟩⟩, ht, hok⟩⟩ := (hperforms _ _ _).1 now
  · cases herror
  · cases hok
  · rw [paired.source_eq] at hsource
    rw [paired.target_eq] at htarget
    exact ⟨opening, history, pool', t, pair, source, target, reached, now, paired, ht,
      paired.source_rect.trans (Option.some.inj hsource),
      paired.target_rect.trans (Option.some.inj htarget), hback.2 admissible⟩

end Rockchip

end DrmSurface
