/-!
# Blits

What a blit does, said without reference to an engine: its rectangles and
its modes.

There are two groups.

* Rectangles, in coordinates of the pixels: the header rows of a buffer are
  not counted.
* Modes.  `BlitOps` collects the transform, the colour key, the alpha, the
  blend, the raster operation and the filter of one blit.
-/

namespace DrmSurface

/-! ## Rectangles -/

/-- A rectangle of pixels.  The corner may lie anywhere. -/
structure Rect where
  x : Int
  y : Int
  w : Nat
  h : Nat
  deriving DecidableEq

namespace Rect

/-- The rectangle that covers a surface. -/
def full (width height : UInt32) : Rect := ⟨0, 0, width.toNat, height.toNat⟩

/-- A rectangle without pixels. -/
def isEmpty (r : Rect) : Bool := r.w = 0 || r.h = 0

/-- The rectangle lies inside a surface. -/
def FitsWithin (r : Rect) (width height : UInt32) : Prop :=
  0 ≤ r.x ∧ 0 ≤ r.y ∧ r.x + r.w ≤ width.toNat ∧ r.y + r.h ≤ height.toNat

instance (r : Rect) (width height : UInt32) : Decidable (r.FitsWithin width height) :=
  inferInstanceAs (Decidable (_ ∧ _))

end Rect

/-! ## Modes -/

/-- The geometric transform of a copy. -/
inductive CopyOp where
  | normal
  | scale
  | rot90
  | rot180
  | rot270
  | flipH
  | flipV
  | flipHV
  deriving DecidableEq

namespace CopyOp

/-- The name of a transform. -/
def name : CopyOp → String
  | normal => "Normal"
  | scale => "Scale"
  | rot90 => "Rot90"
  | rot180 => "Rot180"
  | rot270 => "Rot270"
  | flipH => "FlipH"
  | flipV => "FlipV"
  | flipHV => "FlipHV"

/-- Every transform. -/
def all : List CopyOp := [normal, scale, rot90, rot180, rot270, flipH, flipV, flipHV]

/-- A turn by a multiple of a right angle. -/
def isRotation : CopyOp → Bool
  | rot90 | rot180 | rot270 => true
  | _ => false

/-- A mirror image. -/
def isFlip : CopyOp → Bool
  | flipH | flipV | flipHV => true
  | _ => false

/-- A transform that exchanges width and height. -/
def swapsAxes : CopyOp → Bool
  | rot90 | rot270 => true
  | _ => false

end CopyOp

/-- Which source pixels a colour key leaves out. -/
inductive ColorKey where
  | none
  /-- Pixels inside the range. -/
  | normal (min max : UInt32)
  /-- Pixels outside the range. -/
  | inverted (min max : UInt32)
  deriving DecidableEq

/-- The alpha of the whole source. -/
inductive AlphaOp where
  /-- Each pixel has its own alpha only. -/
  | none
  /-- The source has this alpha. -/
  | set (alpha : UInt8)
  deriving DecidableEq

/-- How source and destination are blended. -/
inductive BlendMode where
  | legacy
  | clear
  | src
  | dst
  | srcOver
  | dstOver
  | srcIn
  | dstIn
  | srcOut
  | dstOut
  | srcAtop
  | dstAtop
  | xor
  | plus
  | modulate
  | multiply
  | screen
  | overlay
  | darken
  | lighten
  | colorDodge
  | colorBurn
  | hardLight
  | softLight
  | difference
  | exclusion
  deriving DecidableEq

namespace BlendMode

/-- The name of a blend mode. -/
def name : BlendMode → String
  | legacy => "Legacy"
  | clear => "Clear"
  | src => "Src"
  | dst => "Dst"
  | srcOver => "SrcOver"
  | dstOver => "DstOver"
  | srcIn => "SrcIn"
  | dstIn => "DstIn"
  | srcOut => "SrcOut"
  | dstOut => "DstOut"
  | srcAtop => "SrcAtop"
  | dstAtop => "DstAtop"
  | xor => "Xor"
  | plus => "Plus"
  | modulate => "Modulate"
  | multiply => "Multiply"
  | screen => "Screen"
  | overlay => "Overlay"
  | darken => "Darken"
  | lighten => "Lighten"
  | colorDodge => "ColorDodge"
  | colorBurn => "ColorBurn"
  | hardLight => "HardLight"
  | softLight => "SoftLight"
  | difference => "Difference"
  | exclusion => "Exclusion"

/-- Every blend mode. -/
def all : List BlendMode :=
  [legacy, clear, src, dst, srcOver, dstOver, srcIn, dstIn, srcOut, dstOut, srcAtop, dstAtop,
   xor, plus, modulate, multiply, screen, overlay, darken, lighten, colorDodge, colorBurn,
   hardLight, softLight, difference, exclusion]

end BlendMode

/-- A logical operation between source and destination. -/
inductive LogicOp where
  | clear
  | nor
  | andInverted
  | copyInverted
  | andReverse
  | invert
  | xor
  | nand
  | and
  | equiv
  | noop
  | orInverted
  | copy
  | orReverse
  | or
  | set
  deriving DecidableEq

namespace LogicOp

/-- The name of a raster operation. -/
def name : LogicOp → String
  | clear => "Clear"
  | nor => "Nor"
  | andInverted => "AndInverted"
  | copyInverted => "CopyInverted"
  | andReverse => "AndReverse"
  | invert => "Invert"
  | xor => "Xor"
  | nand => "Nand"
  | and => "And"
  | equiv => "Equiv"
  | noop => "Noop"
  | orInverted => "OrInverted"
  | copy => "Copy"
  | orReverse => "OrReverse"
  | or => "Or"
  | set => "Set"

/-- Every raster operation. -/
def all : List LogicOp :=
  [clear, nor, andInverted, copyInverted, andReverse, invert, xor, nand, and, equiv, noop,
   orInverted, copy, orReverse, or, set]

end LogicOp

/-- The filter of a copy that scales. -/
inductive ScalingFilter where
  | fast
  | good
  | best
  | nearest
  | bilinear
  | convolution
  deriving DecidableEq

namespace ScalingFilter

/-- The name of a filter. -/
def name : ScalingFilter → String
  | fast => "Fast"
  | good => "Good"
  | best => "Best"
  | nearest => "Nearest"
  | bilinear => "Bilinear"
  | convolution => "Convolution"

/-- Every filter. -/
def all : List ScalingFilter := [fast, good, best, nearest, bilinear, convolution]

end ScalingFilter

/-- Everything about a blit but its buffers and rectangles.  The defaults
are a plain copy. -/
structure BlitOps where
  copy : CopyOp := .normal
  key : ColorKey := .none
  alpha : AlphaOp := .none
  blend : BlendMode := .src
  rop : LogicOp := .copy
  scaling : ScalingFilter := .fast
  deriving DecidableEq

end DrmSurface
