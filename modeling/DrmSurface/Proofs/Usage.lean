import DrmSurface.Engine.Usage

/-!
# What a usage word says

The modes of a blit travel to the engine as a usage word and a few parameters.  The
bits of the transform, the colour key, the blend and the raster operation lie in
four fields of the word that do not overlap, so that no mode hides another one.

There are four groups.

* Words.  `UsageField` names the fields, and `Usage.ofFields_and_mask` says that a
  word that is put together from four fields shows each of them.
* Modes: the ones that the engine has, and what they put into their fields.
* Outcomes.  `BlitOps.Refused` says which mode a translation refuses, and
  `Usage.Regular` what the word of a translation looks like.
* `BlitOps.ofWords?`, which reads the modes back, and `translate_exact_and_lossless`.
-/

namespace DrmSurface

/-! ## Words -/

/-- The fields of a usage word. -/
inductive UsageField where
  | transform
  | colorKey
  | blend
  | rop
  deriving DecidableEq

/-- The bits of a field. -/
def UsageField.mask : UsageField → Usage
  | transform => .transformMask
  | colorKey => .colorKeyMask
  | blend => .blendMask
  | rop => .rop

theorem UsageField.mask_and_mask {i j : UsageField} (h : i ≠ j) :
    i.mask &&& j.mask = .none := by
  cases i <;> cases j <;> first | exact absurd rfl h | decide

namespace Usage

variable {u v m m' : Usage} {f : UsageField → Usage}

/-- All bits of the word are bits of the mask. -/
def Within (u m : Usage) : Prop := u &&& m = u

instance : Decidable (u.Within m) := inferInstanceAs (Decidable (_ = _))

/-- The number of bits of a word. -/
def bitCount (u : Usage) : Nat := u.bits.toBitVec.cpop.toNat

theorem ext_bits (h : u.bits = v.bits) : u = v := by
  cases u
  cases v
  exact congrArg Usage.mk h

theorem or_and_distrib (u v m : Usage) : (u ||| v) &&& m = (u &&& m) ||| (v &&& m) :=
  ext_bits (UInt32.toBitVec_inj.1 BitVec.and_or_distrib_right)

theorem and_assoc (u v m : Usage) : (u &&& v) &&& m = u &&& (v &&& m) :=
  ext_bits (UInt32.and_assoc ..)

theorem none_or (u : Usage) : none ||| u = u := ext_bits UInt32.zero_or

theorem or_none (u : Usage) : u ||| none = u := ext_bits UInt32.or_zero

theorem Within.trans (h : u.Within m) (h' : m.Within m') : u.Within m' := by
  rw [Within, ← h, and_assoc, h']

/-- A word within a mask has no bits of another mask that does not overlap it. -/
theorem Within.and_eq_none (h : u.Within m) (apart : m &&& m' = none) : u &&& m' = none := by
  rw [← h, and_assoc, apart]
  exact ext_bits UInt32.and_zero

/-- The word that is put together from its fields. -/
def ofFields (f : UsageField → Usage) : Usage :=
  f .transform ||| f .colorKey ||| f .blend ||| f .rop

/-- The bits of all fields. -/
def fieldsMask : Usage := ofFields UsageField.mask

theorem ofFields_and (f : UsageField → Usage) (m : Usage) :
    ofFields f &&& m = ofFields fun i => f i &&& m := by
  simp only [ofFields, or_and_distrib]

/-- A word shows each of the fields that it was put together from. -/
theorem ofFields_and_mask (within : ∀ i, (f i).Within i.mask) (i : UsageField) :
    ofFields f &&& i.mask = f i := by
  have hfield : ∀ j, f j &&& i.mask = if j = i then f i else none := by
    intro j
    split
    · rename_i hij
      rw [hij]
      exact within i
    · rename_i hij
      exact (within j).and_eq_none (UsageField.mask_and_mask hij)
  rw [ofFields_and]
  cases i <;> simp only [ofFields, hfield, reduceCtorEq, if_false, if_true, none_or, or_none]

/-- The word has no bits outside of its fields. -/
theorem ofFields_within (within : ∀ i, (f i).Within i.mask) : (ofFields f).Within fieldsMask := by
  have hmask : ∀ i : UsageField, i.mask.Within fieldsMask := by
    intro i
    cases i <;> decide
  have hfield : ∀ i, f i &&& fieldsMask = f i := fun i => (within i).trans (hmask i)
  rw [Within, ofFields_and]
  simp only [hfield]

end Usage

/-! ## Modes -/

/-- The blend modes that the engine has, eleven of the Porter-Duff modes. -/
def BlendMode.supported : List BlendMode :=
  [src, dst, srcOver, dstOver, srcIn, dstIn, srcOut, dstOut, srcAtop, dstAtop, xor]

/-- The raster operations that the engine has. -/
def LogicOp.supported : List LogicOp := [copy, and, or, xor]

/-- The engine has all modes of the blit. -/
structure BlitOps.Supported (ops : BlitOps) : Prop where
  blend_mem : ops.blend ∈ BlendMode.supported
  rop_mem : ops.rop ∈ LogicOp.supported
  scaling_eq : ops.scaling = .fast

/-- The transform as the engine is told: scaling shows in the rectangles alone. -/
def CopyOp.unscaled : CopyOp → CopyOp
  | scale => normal
  | op => op

theorem BlendMode.isSome_usage?_iff {mode : BlendMode} :
    mode.usage?.isSome ↔ mode ∈ supported := by
  cases mode <;> decide

theorem LogicOp.isSome_code?_iff {op : LogicOp} : op.code?.isSome ↔ op ∈ supported := by
  cases op <;> decide

theorem BlendMode.within_of_usage? {mode : BlendMode} {blend : Usage}
    (h : mode.usage? = some blend) : blend.Within .blendMask ∧ blend.bitCount = 1 := by
  cases mode <;> cases h <;> decide

theorem CopyOp.usage_within (op : CopyOp) :
    op.usage.Within .transformMask ∧ op.usage.bitCount ≤ 1 := by
  cases op <;> decide

theorem ColorKey.usage_within (key : ColorKey) :
    key.usage.Within .colorKeyMask ∧ key.usage.bitCount ≤ 1 ∧
      (key.usage ≠ .none ↔ key.range?.isSome) := by
  cases key <;> simp only [usage, range?, Option.isSome] <;> decide

/-- What a blit puts into the fields of its word, if the engine has its modes. -/
def BlitOps.field (ops : BlitOps) (blend : Usage) (ropCode : Option Int) : UsageField → Usage
  | .transform => ops.copy.usage
  | .colorKey => ops.key.usage
  | .blend => blend
  | .rop => if ropCode.isSome then .rop else .none

variable {ops ops' : BlitOps} {word blend : Usage} {options : EngineOptions}
  {ropCode : Option Int} {e e' : ModeError}

theorem BlitOps.field_within (h : ops.blend.usage? = some blend) (ropCode : Option Int)
    (i : UsageField) : (ops.field blend ropCode i).Within i.mask := by
  cases i with
  | transform => exact ops.copy.usage_within.1
  | colorKey => exact ops.key.usage_within.1
  | blend => exact (BlendMode.within_of_usage? h).1
  | rop =>
    cases ropCode with
    | none => exact (by decide : Usage.none.Within .rop)
    | some _ => exact (by decide : Usage.rop.Within .rop)

/-! ## Outcomes -/

/-- The mode that a translation refuses is the first one that the engine does not
have. -/
inductive BlitOps.Refused (ops : BlitOps) : ModeError → Prop where
  | blend (h : ops.blend ∉ BlendMode.supported) : ops.Refused (.blend ops.blend)
  | rasterOp (blend_mem : ops.blend ∈ BlendMode.supported) (h : ops.rop ∉ LogicOp.supported) :
      ops.Refused (.rasterOp ops.rop)
  | scalingFilter (blend_mem : ops.blend ∈ BlendMode.supported)
      (rop_mem : ops.rop ∈ LogicOp.supported) (h : ops.scaling ≠ .fast) :
      ops.Refused (.scalingFilter ops.scaling)

theorem BlitOps.Refused.unique (h : ops.Refused e) (h' : ops.Refused e') : e = e' := by
  cases h <;> cases h' <;> first | rfl | contradiction

theorem BlitOps.Refused.not_supported (h : ops.Refused e) : ¬ ops.Supported := by
  rintro ⟨_, _, _⟩
  cases h <;> contradiction

/-- A translation is refused, or it puts the modes into the fields of a word. -/
theorem translate_cases (ops : BlitOps) :
    (∃ e, ops.Refused e ∧ translate ops = .error e) ∨
      ops.Supported ∧ ∃ blend ropCode, ops.blend.usage? = some blend ∧
        ops.rop.code? = some ropCode ∧ translate ops =
          .ok (.ofFields (ops.field blend ropCode), { colorKey := ops.key.range?, ropCode }) := by
  cases hblend : ops.blend.usage? with
  | none =>
    refine .inl ⟨_, .blend fun h => ?_, by simp only [translate, hblend]⟩
    simp [← BlendMode.isSome_usage?_iff, hblend] at h
  | some blend =>
    have blend_mem := BlendMode.isSome_usage?_iff.1 (Option.isSome_of_eq_some hblend)
    cases hrop : ops.rop.code? with
    | none =>
      refine .inl ⟨_, .rasterOp blend_mem fun h => ?_, by simp only [translate, hblend, hrop]⟩
      simp [← LogicOp.isSome_code?_iff, hrop] at h
    | some ropCode =>
      have rop_mem := LogicOp.isSome_code?_iff.1 (Option.isSome_of_eq_some hrop)
      by_cases hscaling : ops.scaling = .fast
      · refine .inr ⟨⟨blend_mem, rop_mem, hscaling⟩, blend, ropCode, rfl, rfl, ?_⟩
        simp only [translate, hblend, hrop, hscaling, ne_eq, not_true_eq_false, if_false]
        rfl
      · refine .inl ⟨_, .scalingFilter blend_mem rop_mem hscaling, ?_⟩
        simp only [translate, hblend, hrop, ne_eq, hscaling, not_false_eq_true, if_true]

theorem translate_eq_error_iff : translate ops = .error e ↔ ops.Refused e := by
  rcases translate_cases ops with ⟨e', hrefused, h⟩ | ⟨hsupported, _, _, -, -, h⟩
  · rw [h]
    exact ⟨fun heq => by cases heq; exact hrefused, fun h' => by rw [hrefused.unique h']⟩
  · rw [h]
    exact ⟨fun heq => (by cases heq), fun h' => absurd hsupported h'.not_supported⟩

theorem exists_translate_iff : (∃ words, translate ops = .ok words) ↔ ops.Supported := by
  rcases translate_cases ops with ⟨e, hrefused, h⟩ | ⟨hsupported, _, _, -, -, h⟩
  · rw [h]
    exact ⟨fun ⟨_, heq⟩ => (by cases heq), fun h' => absurd h' hrefused.not_supported⟩
  · exact iff_of_true ⟨_, h⟩ hsupported

/-- A translation that succeeds puts the modes into the fields of its word. -/
theorem fields_of_translate (h : translate ops = .ok (word, options)) :
    ops.Supported ∧ ∃ blend ropCode, ops.blend.usage? = some blend ∧
      ops.rop.code? = some ropCode ∧ word = .ofFields (ops.field blend ropCode) ∧
        options = { colorKey := ops.key.range?, ropCode } := by
  rcases translate_cases ops with ⟨e, -, h'⟩ | ⟨hsupported, blend, ropCode, hblend, hrop, h'⟩
  · cases h.symm.trans h'
  · cases h.symm.trans h'
    exact ⟨hsupported, blend, ropCode, hblend, hrop, rfl, rfl⟩

/-- What the word of a translation looks like beside its parameters. -/
structure Usage.Regular (word : Usage) (options : EngineOptions) : Prop where
  transform_le : (word &&& transformMask).bitCount ≤ 1
  blend_eq : (word &&& blendMask).bitCount = 1
  colorKey_le : (word &&& colorKeyMask).bitCount ≤ 1
  rop_iff : word &&& rop = rop ↔ options.ropCode.isSome
  colorKey_iff : word &&& colorKeyMask ≠ none ↔ options.colorKey.isSome
  within : word.Within (transformMask ||| colorKeyMask ||| blendMask ||| rop)
  without_sync : word &&& sync = none
  without_colorFill : word &&& colorFill = none

theorem regular_of_translate (h : translate ops = .ok (word, options)) : word.Regular options := by
  obtain ⟨-, blend, ropCode, hblend, -, rfl, rfl⟩ := fields_of_translate h
  have hmask := Usage.ofFields_and_mask (ops.field_within hblend ropCode)
  have hwithin := Usage.ofFields_within (ops.field_within hblend ropCode)
  have htransform := hmask .transform
  have hcolorKey := hmask .colorKey
  have hblendMask := hmask .blend
  have hrop := hmask .rop
  simp only [UsageField.mask] at htransform hcolorKey hblendMask hrop
  refine ⟨?_, ?_, ?_, ?_, ?_, hwithin, hwithin.and_eq_none (by decide),
    hwithin.and_eq_none (by decide)⟩
  · rw [htransform]
    exact ops.copy.usage_within.2
  · rw [hblendMask]
    exact (BlendMode.within_of_usage? hblend).2
  · rw [hcolorKey]
    exact ops.key.usage_within.2.1
  · rw [hrop]
    cases ropCode <;> simp [BlitOps.field]
    decide
  · rw [hcolorKey]
    exact ops.key.usage_within.2.2

/-! ## Reading the modes back -/

/-- The colour key that shows in its field and in the parameters. -/
def ColorKey.ofWords? (field : Usage) : Option KeyRange → Option ColorKey
  | Option.none => if field = .none then some .none else Option.none
  | some range =>
    if field = .colorKeyNormal then some (.normal range.min range.max)
    else if field = .colorKeyInverted then some (.inverted range.min range.max)
    else Option.none

/-- The modes of a request, which the engine can read off its word and its
parameters. -/
def BlitOps.ofWords? (word : Usage) (options : EngineOptions) : Option BlitOps := do
  let copy ← CopyOp.all.find? fun op => op.usage = word &&& .transformMask
  let key ← ColorKey.ofWords? (word &&& .colorKeyMask) options.colorKey
  let blend ← BlendMode.all.find? fun mode => mode.usage? = some (word &&& .blendMask)
  let rop ← LogicOp.all.find? fun op => op.code? = some options.ropCode
  return { copy, key, blend, rop }

theorem CopyOp.find?_usage (op : CopyOp) :
    (CopyOp.all.find? fun op' => op'.usage = op.usage) = some op.unscaled := by
  cases op <;> decide

theorem ColorKey.ofWords?_usage (key : ColorKey) : ofWords? key.usage key.range? = some key := by
  cases key <;> rfl

theorem BlendMode.find?_usage? {mode : BlendMode} (h : mode.usage? = some blend) :
    (BlendMode.all.find? fun mode' => mode'.usage? = some blend) = some mode := by
  cases mode <;> cases h <;> decide

theorem LogicOp.find?_code? {op : LogicOp} (h : op.code? = some ropCode) :
    (LogicOp.all.find? fun op' => op'.code? = some ropCode) = some op := by
  cases op <;> cases h <;> decide

/-- All modes can be read back, but for the alpha, which goes with the view of the
source, and the scaling, which shows in the rectangles. -/
theorem ofWords?_of_translate (h : translate ops = .ok (word, options)) :
    BlitOps.ofWords? word options =
      some { ops with copy := ops.copy.unscaled, alpha := .none } := by
  obtain ⟨hsupported, blend, ropCode, hblend, hrop, rfl, rfl⟩ := fields_of_translate h
  have hmask := Usage.ofFields_and_mask (ops.field_within hblend ropCode)
  have htransform : _ &&& Usage.transformMask = ops.copy.usage := hmask .transform
  have hcolorKey : _ &&& Usage.colorKeyMask = ops.key.usage := hmask .colorKey
  have hblendMask : _ &&& Usage.blendMask = blend := hmask .blend
  simp only [BlitOps.ofWords?, htransform, hcolorKey, hblendMask, CopyOp.find?_usage,
    ColorKey.ofWords?_usage, BlendMode.find?_usage? hblend, LogicOp.find?_code? hrop,
    Option.bind_eq_bind, Option.bind_some, Option.pure_def, hsupported.scaling_eq]

/-- A translation succeeds if and only if the engine has all modes of the blit, and
otherwise it refuses the first one that the engine does not have.  The word of a
translation has at most one bit for the transform and for the colour key, exactly
one for the blend, one for the raster operation if there is a code for it, and no
other bits.  The modes can be read back from it, so that two blits with the same
word and parameters differ at most in their alpha and in whether they scale. -/
theorem translate_exact_and_lossless :
    (∀ ops, (∃ words, translate ops = .ok words) ↔ ops.Supported) ∧
    (∀ ops e, translate ops = .error e ↔ ops.Refused e) ∧
    (∀ ops word options, translate ops = .ok (word, options) → word.Regular options ∧
      BlitOps.ofWords? word options = some { ops with copy := ops.copy.unscaled, alpha := .none }) ∧
    ∀ ops ops' words, translate ops = .ok words → translate ops' = .ok words →
      ops.key = ops'.key ∧ ops.blend = ops'.blend ∧ ops.rop = ops'.rop ∧
        ops.scaling = ops'.scaling ∧ ops.copy.unscaled = ops'.copy.unscaled := by
  refine ⟨fun _ => exists_translate_iff, fun _ _ => translate_eq_error_iff,
    fun _ _ _ h => ⟨regular_of_translate h, ofWords?_of_translate h⟩, ?_⟩
  rintro ops ops' ⟨word, options⟩ h h'
  have hsame := (ofWords?_of_translate h).symm.trans (ofWords?_of_translate h')
  simp only [Option.some.injEq, BlitOps.mk.injEq] at hsame
  obtain ⟨hcopy, hkey, -, hblend, hrop, hscaling⟩ := hsame
  exact ⟨hkey, hblend, hrop, hscaling, hcopy⟩

/-- A turned blit with an inverted colour key, for any filter. -/
def turnedBlit (scaling : ScalingFilter) : BlitOps where
  copy := .rot90
  key := .inverted 16 32
  alpha := .set 7
  blend := .srcAtop
  rop := .xor
  scaling := scaling

/-- The turned blit can be read back from its word, and with another filter it is
refused. -/
theorem translate_exact_and_lossless_sample :
    ∃ word options, translate (turnedBlit .fast) = .ok (word, options) ∧ word.Regular options ∧
      BlitOps.ofWords? word options = some { turnedBlit .fast with alpha := .none } ∧
      translate (turnedBlit .best) = .error (.scalingFilter .best) := by
  obtain ⟨-, hrefused, hword, -⟩ := translate_exact_and_lossless
  obtain ⟨hregular, hread⟩ := hword (turnedBlit .fast) _ _ rfl
  exact ⟨_, _, rfl, hregular, hread,
    (hrefused (turnedBlit .best) _).2 (.scalingFilter (by decide) (by decide) (by decide))⟩

end DrmSurface
