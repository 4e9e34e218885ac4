import DrmSurface.Error

/-!
# Capabilities

A word of bits, one for each group of optional operations, by which a
driver tells what it has before anybody tries.
-/

namespace DrmSurface

/-- The optional operations that a driver has. -/
structure Capabilities where
  bits : UInt32
  deriving DecidableEq

namespace Capabilities

instance : OrOp Capabilities := ⟨fun a b => ⟨a.bits ||| b.bits⟩⟩

/-- No optional operation. -/
def none : Capabilities := ⟨0⟩

/-- One optional operation. -/
def bit (n : UInt32) : Capabilities := ⟨(1 : UInt32) <<< n⟩

def flush : Capabilities := bit 0
def importHandle : Capabilities := bit 1
def importName : Capabilities := bit 2
def importPrime : Capabilities := bit 3
def exportPrime : Capabilities := bit 4
def fillRect : Capabilities := bit 5
def blit : Capabilities := bit 6
def copy : Capabilities := bit 7
def rotate : Capabilities := bit 8
def flip : Capabilities := bit 9

/-- Every import. -/
def imports : Capabilities := importHandle ||| importName ||| importPrime

/-- Every operation of the 2D engine. -/
def accelerated : Capabilities := fillRect ||| blit ||| copy ||| rotate ||| flip

/-- The single capabilities and their names, lowest bit first. -/
def named : List (Capabilities × String) :=
  [(flush, "FLUSH"), (importHandle, "IMPORT_HANDLE"), (importName, "IMPORT_NAME"),
   (importPrime, "IMPORT_PRIME_FD"), (exportPrime, "EXPORT_PRIME_FD"),
   (fillRect, "FILL_RECT"), (blit, "BLIT"), (copy, "COPY_BUFF"),
   (rotate, "ROTATE_BUFF"), (flip, "FLIP_BUFF")]

/-- Every capability. -/
def all : Capabilities := flush ||| imports ||| exportPrime ||| accelerated

/-- The capabilities of a word; bits without a meaning are dropped. -/
def ofBits (bits : UInt32) : Capabilities := ⟨bits &&& all.bits⟩

/-- Whether every capability of `b` is one of `a`. -/
def contains (a b : Capabilities) : Bool := a.bits &&& b.bits = b.bits

/-- The capabilities as text, by their names. -/
def display (c : Capabilities) : String :=
  let names := (named.filter fun entry => c.contains entry.1).map (·.2)
  if names.isEmpty then "Capabilities(0x0)"
  else "Capabilities(" ++ " | ".intercalate names ++ ")"

end Capabilities

/-- The capability that a slot belongs to.  Checking and running a blit go
together, and every driver has been created. -/
def Slot.capability : Slot → Capabilities
  | createDriver => .none
  | flush => .flush
  | importHandle => .importHandle
  | importName => .importName
  | importPrime => .importPrime
  | exportPrime => .exportPrime
  | fillRect => .fillRect
  | checkBlit | blit => .blit
  | copy => .copy
  | rotate => .rotate
  | flip => .flip

end DrmSurface
