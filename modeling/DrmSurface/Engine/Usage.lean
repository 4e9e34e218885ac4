import DrmSurface.Blit

/-!
# Usage words

A request to the 2D engine carries a word of operation bits and a few
auxiliary parameters.  `translate` derives both from the modes of a blit.

There are three groups.

* `Usage`, the word, with its bits and the masks of its fields.
* The fields: the bits of each mode that the engine has, and `ModeError`
  for a mode that it does not have.
* `translate`, which looks at the blend, the raster operation and the
  filter in this order.  The alpha adds no bits; it travels with the view
  of the source buffer.
-/

namespace DrmSurface

/-! ## The word -/

/-- The operation bits of a request. -/
structure Usage where
  bits : UInt32
  deriving DecidableEq

namespace Usage

instance : OrOp Usage := ⟨fun u v => ⟨u.bits ||| v.bits⟩⟩

instance : AndOp Usage := ⟨fun u v => ⟨u.bits &&& v.bits⟩⟩

/-- The word without bits. -/
def none : Usage := ⟨0⟩

/-- The word with one bit. -/
def bit (n : UInt32) : Usage := ⟨(1 : UInt32) <<< n⟩

def rot90 : Usage := bit 0
def rot180 : Usage := bit 1
def rot270 : Usage := bit 2
def flipH : Usage := bit 3
def flipV : Usage := bit 4
def flipHV : Usage := bit 5

def blendSrcOver : Usage := bit 6
def blendSrc : Usage := bit 7
def blendDst : Usage := bit 8
def blendSrcIn : Usage := bit 9
def blendDstIn : Usage := bit 10
def blendSrcOut : Usage := bit 11
def blendDstOut : Usage := bit 12
def blendDstOver : Usage := bit 13
def blendSrcAtop : Usage := bit 14
def blendDstAtop : Usage := bit 15
def blendXor : Usage := bit 16

def colorKeyNormal : Usage := bit 17
def colorKeyInverted : Usage := bit 18

def sync : Usage := bit 19
def colorFill : Usage := bit 21
def rop : Usage := bit 24

/-- The bits of the geometric transform. -/
def transformMask : Usage := ⟨0x3f⟩

/-- The bits of the blend. -/
def blendMask : Usage := ⟨0x1ffc0⟩

/-- The bits of the colour key. -/
def colorKeyMask : Usage := ⟨0x60000⟩

end Usage

/-! ## The fields -/

/-- A mode that the engine does not have. -/
inductive ModeError where
  | blend (mode : BlendMode)
  | rasterOp (op : LogicOp)
  | scalingFilter (filter : ScalingFilter)
  deriving DecidableEq

namespace ModeError

/-- The name of a kind of mode error. -/
def kind : ModeError → String
  | blend _ => "Blend"
  | rasterOp _ => "RasterOp"
  | scalingFilter _ => "ScalingFilter"

/-- The wording of a mode error. -/
def message : ModeError → String
  | blend mode => s!"unsupported blend mode: {mode.name}"
  | rasterOp op => s!"unsupported raster operation: {op.name}"
  | scalingFilter filter => s!"unsupported scaling filter: {filter.name}"

end ModeError

/-- The bits of a transform.  Scaling shows in the rectangles alone. -/
def CopyOp.usage : CopyOp → Usage
  | normal | scale => .none
  | rot90 => .rot90
  | rot180 => .rot180
  | rot270 => .rot270
  | flipH => .flipH
  | flipV => .flipV
  | flipHV => .flipHV

/-- The bits of a colour key. -/
def ColorKey.usage : ColorKey → Usage
  | none => .none
  | normal .. => .colorKeyNormal
  | inverted .. => .colorKeyInverted

/-- A colour-key range, both ends included. -/
structure KeyRange where
  min : UInt32
  max : UInt32
  deriving DecidableEq

/-- The range of a colour key. -/
def ColorKey.range? : ColorKey → Option KeyRange
  | none => Option.none
  | normal min max | inverted min max => some ⟨min, max⟩

/-- The bits of a blend mode; only eleven of the Porter-Duff modes have any. -/
def BlendMode.usage? : BlendMode → Option Usage
  | src => some .blendSrc
  | dst => some .blendDst
  | srcOver => some .blendSrcOver
  | dstOver => some .blendDstOver
  | srcIn => some .blendSrcIn
  | dstIn => some .blendDstIn
  | srcOut => some .blendSrcOut
  | dstOut => some .blendDstOut
  | srcAtop => some .blendSrcAtop
  | dstAtop => some .blendDstAtop
  | xor => some .blendXor
  | _ => none

/-- What a raster operation asks of the engine: nothing for a plain copy,
a code for the three operations that the engine has. -/
def LogicOp.code? : LogicOp → Option (Option Int)
  | copy => some none
  | and => some (some 0x88)
  | or => some (some 0xee)
  | xor => some (some 0xf6)
  | _ => none

/-! ## Translation -/

/-- The parameters that go with a usage word. -/
structure EngineOptions where
  colorKey : Option KeyRange := none
  ropCode : Option Int := none
  deriving DecidableEq

/-- The usage word and the parameters for the modes of a blit, or the first
mode that the engine does not have. -/
def translate (ops : BlitOps) : Except ModeError (Usage × EngineOptions) :=
  match ops.blend.usage? with
  | none => .error (.blend ops.blend)
  | some blend =>
    match ops.rop.code? with
    | none => .error (.rasterOp ops.rop)
    | some ropCode =>
      if ops.scaling ≠ .fast then .error (.scalingFilter ops.scaling)
      else
        let rop := if ropCode.isSome then Usage.rop else Usage.none
        .ok (ops.copy.usage ||| ops.key.usage ||| blend ||| rop,
          { colorKey := ops.key.range?, ropCode })

end DrmSurface
