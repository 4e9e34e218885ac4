import DrmSurface.Geometry
import DrmSurface.Log.Level
import DrmSurface.Text.Blank
import DrmSurface.Text.Split

/-!
# Options of the probe

What the probe program does, and how its options are written as texts.

There are three groups.

* `ProbeOptions`, with the defaults.
* Errors.  Each one says which option is wrong and, below that, why.
* Readers, one for each kind of value.  All of them leave out the blanks
  around a value.
-/

namespace DrmSurface

open Text

/-! ## Options -/

/-- A size in pixels. -/
structure PixelSize where
  width : UInt32
  height : UInt32
  deriving DecidableEq

/-- What the probe does. -/
structure ProbeOptions where
  /-- The path of the device node. -/
  device : String := "/dev/dri/card0"
  /-- The name of the driver; without one the device is asked. -/
  driver : Option String := none
  format : Fourcc := .xrgb8888
  size : PixelSize := ⟨640, 480⟩
  headerSize : UInt32 := 0
  placement : Placement := .general
  /-- The colour that the engine shall fill the buffer with. -/
  fillColor : Option UInt32 := none
  /-- Whether to map the buffer and draw a pattern. -/
  map : Bool := false
  /-- How many levels more than usual are logged. -/
  verbose : Nat := 0
  deriving DecidableEq

/-- Warnings and errors are logged as a rule. -/
def ProbeOptions.logLevel (options : ProbeOptions) : LogLevel :=
  .ofInt (LogLevel.warning.toNat + options.verbose)

/-! ## Errors -/

/-- Why a text is no size. -/
inductive SizeError where
  /-- There is no `x` between two values. -/
  | shape
  | width (cause : NumeralError)
  | height (cause : NumeralError)
  /-- A value is zero. -/
  | notPositive
  deriving DecidableEq

/-- The wording of a size error and its cause, outermost first. -/
def SizeError.chain : SizeError → List String
  | shape => ["Size must be in WIDTHxHEIGHT format"]
  | width cause => ["Invalid width value", cause.message]
  | height cause => ["Invalid height value", cause.message]
  | notPositive => ["Size values must be positive"]

/-- Why a text is no pixel format. -/
inductive FormatError where
  /-- The text is neither a name nor a tag. -/
  | unknown (text : String)
  /-- No backend has the format. -/
  | unsupported (format : Fourcc)
  deriving DecidableEq

/-- The wording of a format error. -/
def FormatError.chain : FormatError → List String
  | unknown text => [s!"Unknown pixel format: {text}"]
  | unsupported format => [s!"Pixel format {format.display} is not supported by any backend"]

/-- Why a text is no placement. -/
structure PlacementError where
  text : String
  deriving DecidableEq

/-- The wording of a placement error. -/
def PlacementError.chain (e : PlacementError) : List String :=
  [s!"Invalid placement: {e.text} (expected scanout, shadow or general)"]

/-- Why a text is no colour. -/
structure ColorError where
  hexadecimal : Bool
  text : String
  cause : NumeralError
  deriving DecidableEq

/-- The wording of a colour error and its cause, outermost first. -/
def ColorError.chain (e : ColorError) : List String :=
  [(if e.hexadecimal then "Invalid hex colour: " else "Invalid colour: ") ++ e.text,
   e.cause.message]

/-- Why the value of an option cannot be used. -/
inductive OptionError where
  | format (cause : FormatError)
  | size (cause : SizeError)
  | header (cause : NumeralError)
  | placement (cause : PlacementError)
  | fill (cause : ColorError)
  deriving DecidableEq

/-- The wording of an option error and its causes, outermost first. -/
def OptionError.chain : OptionError → List String
  | format cause => cause.chain
  | size cause => "Invalid buffer size" :: cause.chain
  | header cause => ["Invalid header size", cause.message]
  | placement cause => cause.chain
  | fill cause => cause.chain

/-! ## Readers -/

/-- Reads a decimal numeral with blanks around it. -/
def parseDecimal (s : List Char) : Except NumeralError UInt32 :=
  (numeral 10 (trimList s)).map UInt32.ofNat

/-- Reads a size, two positive numerals around the first `x`. -/
def parseSize (s : String) : Except SizeError PixelSize :=
  match splitOnce 'x' s.toList with
  | none => .error .shape
  | some (before, after) =>
    match parseDecimal before with
    | .error e => .error (.width e)
    | .ok width =>
      match parseDecimal after with
      | .error e => .error (.height e)
      | .ok height =>
        if width = 0 ∨ height = 0 then .error .notPositive else .ok ⟨width, height⟩

/-- Reads a pixel format, a DRM name or else a tag, that some backend has. -/
def parseFormat (s : String) : Except FormatError Fourcc :=
  let text := trim s
  match (Fourcc.ofName? text).or (Fourcc.ofTag? text) with
  | none => .error (.unknown text)
  | some f =>
    if (FormatTable.generic.resolve f).isNone ∧ (FormatTable.rockchip.resolve f).isNone then
      .error (.unsupported f)
    else .ok f

/-- Reads a placement; the case of ASCII letters does not matter. -/
def parsePlacement (s : String) : Except PlacementError Placement :=
  let text := String.ofList ((trimList s.toList).map Char.toLower)
  if text = "scanout" then .ok .scanout
  else if text = "shadow" then .ok .shadow
  else if text = "general" then .ok .general
  else .error ⟨text⟩

/-- Reads a pixel value, hexadecimal after `0x` or `0X` and decimal
otherwise. -/
def parseColor (s : String) : Except ColorError UInt32 :=
  let text := trimList s.toList
  let read (hexadecimal : Bool) (radix : Nat) (digits : List Char) :=
    match numeral radix digits with
    | .ok n => .ok (UInt32.ofNat n)
    | .error e => .error ⟨hexadecimal, String.ofList text, e⟩
  match text with
  | '0' :: 'x' :: digits | '0' :: 'X' :: digits => read true 16 digits
  | digits => read false 10 digits

end DrmSurface
