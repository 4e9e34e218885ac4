import DrmSurface.Probe.Options

/-!
# Command-line arguments

Reading the words of a command line, and turning them into options of the
probe.

A word is a long option (`--device`, `--device=a`), a cluster of short
options (`-vm`, `-da`, `-d=a`), a value, or `--`, after which nothing more
is understood.  An option that needs a value takes it from the same word or
from the next one.

A value in a word of its own is not stored at once.  It waits until the
next option is understood or the words end, and only then is it found
missing or given twice.  Words that are not understood are reported before
that.

There are four groups.

* The options that exist.
* `Arguments`, what has been given.
* `Scan`, what has been read so far.
* `Arguments.parse`, which reads a command line, and `Arguments.options`,
  which applies it to the defaults.
-/

namespace DrmSurface

open Text

/-! ## The options that exist -/

/-- An option with a value. -/
inductive ValueOption where
  | device
  | driver
  | format
  | size
  | header
  | placement
  | fill
  deriving DecidableEq

/-- An option without a value. -/
inductive Switch where
  | map
  | verbose
  | list
  | help
  | version
  deriving DecidableEq

/-- An option of either kind. -/
inductive OptionKind where
  | value (option : ValueOption)
  | switch (switch : Switch)
  deriving DecidableEq

/-- The options by their long names. -/
def longOptions : List (String × OptionKind) :=
  [("device", .value .device), ("driver", .value .driver), ("format", .value .format),
   ("size", .value .size), ("header", .value .header), ("placement", .value .placement),
   ("fill", .value .fill), ("map", .switch .map), ("verbose", .switch .verbose),
   ("list", .switch .list), ("help", .switch .help), ("version", .switch .version)]

/-- The options by their short names. -/
def shortOptions : List (Char × OptionKind) :=
  [('d', .value .device), ('f', .value .format), ('s', .value .size),
   ('p', .value .placement), ('m', .switch .map), ('v', .switch .verbose),
   ('h', .switch .help), ('V', .switch .version)]

/-! ## What has been given -/

/-- Why a command line ends without arguments. -/
inductive UsageError where
  /-- Help was asked for. -/
  | displayHelp
  /-- The version was asked for. -/
  | displayVersion
  /-- A word is not understood. -/
  | unknownArgument
  /-- An option is given twice. -/
  | argumentConflict
  /-- An option without a value is given one. -/
  | tooManyValues
  /-- The value of an option is missing. -/
  | invalidValue
  deriving DecidableEq

/-- The name of a kind of usage error. -/
def UsageError.name : UsageError → String
  | displayHelp => "DisplayHelp"
  | displayVersion => "DisplayVersion"
  | unknownArgument => "UnknownArgument"
  | argumentConflict => "ArgumentConflict"
  | tooManyValues => "TooManyValues"
  | invalidValue => "InvalidValue"

/-- The arguments of a command line. -/
structure Arguments where
  device : Option String := none
  driver : Option String := none
  format : Option String := none
  size : Option String := none
  header : Option String := none
  placement : Option String := none
  fill : Option String := none
  map : Bool := false
  list : Bool := false
  verbose : Nat := 0
  deriving DecidableEq

namespace Arguments

/-- The value of an option. -/
def value? (a : Arguments) : ValueOption → Option String
  | .device => a.device
  | .driver => a.driver
  | .format => a.format
  | .size => a.size
  | .header => a.header
  | .placement => a.placement
  | .fill => a.fill

/-- Sets the value of an option. -/
def set (a : Arguments) (option : ValueOption) (value : String) : Arguments :=
  match option with
  | .device => { a with device := some value }
  | .driver => { a with driver := some value }
  | .format => { a with format := some value }
  | .size => { a with size := some value }
  | .header => { a with header := some value }
  | .placement => { a with placement := some value }
  | .fill => { a with fill := some value }

/-- Gives an option its value; a second one is a conflict. -/
def give (a : Arguments) (option : ValueOption) (value : String) :
    Except UsageError Arguments :=
  if (a.value? option).isSome then .error .argumentConflict else .ok (a.set option value)

/-- Turns a switch on.  Only the verbosity may be asked for again, and it is
counted up to the greatest byte. -/
def turnOn (a : Arguments) : Switch → Except UsageError Arguments
  | .map => if a.map then .error .argumentConflict else .ok { a with map := true }
  | .list => if a.list then .error .argumentConflict else .ok { a with list := true }
  | .verbose => .ok { a with verbose := min 255 (a.verbose + 1) }
  | .help => .error .displayHelp
  | .version => .error .displayVersion

end Arguments

/-! ## What has been read -/

/-- The arguments so far, and the option that waits for a value or holds
one that has not been stored yet. -/
structure Scan where
  arguments : Arguments := {}
  pending : Option (ValueOption × Option String) := none
  deriving DecidableEq

namespace Scan

/-- Stores the value that waits; an option without one is an error. -/
def settle (s : Scan) : Except UsageError Scan :=
  match s.pending with
  | none => .ok s
  | some (_, none) => .error .invalidValue
  | some (option, some value) => do
    return { arguments := ← s.arguments.give option value }

/-- A switch. -/
def switch (s : Scan) (switch : Switch) : Except UsageError Scan := do
  let s ← s.settle
  return { s with arguments := ← s.arguments.turnOn switch }

/-- An option whose value stands in the same word. -/
def attached (s : Scan) (option : ValueOption) (value : List Char) : Except UsageError Scan := do
  let s ← s.settle
  return { s with arguments := ← s.arguments.give option (String.ofList value) }

/-- An option whose value is to follow. -/
def awaited (s : Scan) (option : ValueOption) : Except UsageError Scan := do
  let s ← s.settle
  return { s with pending := some (option, none) }

/-- A word that is no option: the value that is waited for. -/
def plain (s : Scan) (word : List Char) : Except UsageError Scan :=
  match s.pending with
  | some (option, none) => .ok { s with pending := some (option, some (String.ofList word)) }
  | _ => .error .unknownArgument

/-- A long option, without the dashes. -/
def long (s : Scan) (body : List Char) : Except UsageError Scan :=
  let (name, value?) :=
    match splitOnce '=' body with
    | some (name, value) => (name, some value)
    | none => (body, none)
  match longOptions.lookup (String.ofList name), value? with
  | none, _ => .error .unknownArgument
  | some (.value option), some value => s.attached option value
  | some (.value option), none => s.awaited option
  | some (.switch _), some _ => .error .tooManyValues
  | some (.switch switch), none => s.switch switch

/-- A cluster of short options, without the dash.  An option with a value
takes the rest of the cluster, less an equals sign in front. -/
def short (s : Scan) : List Char → Except UsageError Scan
  | [] => .ok s
  | c :: rest =>
    match shortOptions.lookup c with
    | none => .error .unknownArgument
    | some (.switch switch) =>
      match s.switch switch with
      | .ok s => s.short rest
      | .error e => .error e
    | some (.value option) =>
      match rest with
      | [] => s.awaited option
      | '=' :: value => s.attached option value
      | value => s.attached option value

/-- The words of a command line, one after another.  After `--` every word
is one too many. -/
def words (s : Scan) : List (List Char) → Except UsageError Scan
  | [] => .ok s
  | ['-', '-'] :: rest => if rest.isEmpty then .ok s else .error .unknownArgument
  | word :: rest => do
    let s ← match word with
      | '-' :: '-' :: body => s.long body
      | '-' :: c :: cluster => s.short (c :: cluster)
      | _ => s.plain word
    s.words rest

end Scan

/-! ## Reading a command line -/

namespace Arguments

/-- Reads the words of a command line, the name of the program left out. -/
def parse (words : List String) : Except UsageError Arguments := do
  let s ← Scan.words {} (words.map (·.toList))
  return (← s.settle).arguments

/-- Reads the value of an option, if there is one. -/
def read {ε α : Type} (value : Option String) (default : α) (reader : String → Except ε α)
    (error : ε → OptionError) : Except OptionError α :=
  match value with
  | none => .ok default
  | some text => (reader text).mapError error

/-- Applies arguments to options.  The values are read in the order in
which the options are listed. -/
def options (a : Arguments) (base : ProbeOptions) : Except OptionError ProbeOptions := do
  let format ← read a.format base.format parseFormat .format
  let size ← read a.size base.size parseSize .size
  let headerSize ← read a.header base.headerSize (fun s => parseDecimal s.toList) .header
  let placement ← read a.placement base.placement parsePlacement .placement
  let fillColor ← read a.fill base.fillColor (fun s => (parseColor s).map some) .fill
  return {
    device := a.device.getD base.device
    driver := a.driver.or base.driver
    format, size, headerSize, placement, fillColor
    map := a.map || base.map
    verbose := if a.verbose > 0 then a.verbose else base.verbose }

end Arguments

end DrmSurface
