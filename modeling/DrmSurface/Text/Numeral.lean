/-!
# Numerals

Reading and writing natural numbers below `2 ^ 32`.

A numeral is an optional single `+` and then one or more ASCII digits of
the radix, in either case.  There are no separators and no minus sign.

There are two groups.

* Reading.  `digitValue` is the value of one digit, `accumulate` adds
  digits to what has been read, and `numeral` reads a whole numeral.  The
  first fault from the left is the one reported.
* Writing.  `hex` and `paddedHex` write lower-case hexadecimal digits.
-/

namespace DrmSurface.Text

/-! ## Reading -/

/-- Why a text is no numeral below `2 ^ 32`. -/
inductive NumeralError where
  /-- There is nothing to read. -/
  | empty
  /-- A character is no digit, or a sign stands alone. -/
  | invalidDigit
  /-- The value does not fit 32 bits. -/
  | tooLarge
  deriving DecidableEq

/-- The wording of a numeral error. -/
def NumeralError.message : NumeralError → String
  | .empty => "cannot parse integer from empty string"
  | .invalidDigit => "invalid digit found in string"
  | .tooLarge => "number too large to fit in target type"

/-- The value of an ASCII digit or letter as a digit of `radix`. -/
def digitValue (radix : Nat) (c : Char) : Option Nat :=
  let n := c.toNat
  let value :=
    if 48 ≤ n ∧ n ≤ 57 then some (n - 48)
    else if 97 ≤ n ∧ n ≤ 122 then some (n - 87)
    else if 65 ≤ n ∧ n ≤ 90 then some (n - 55)
    else none
  value.filter (· < radix)

/-- Reads digits on top of the value read so far.  A character that is no
digit is refused before the size of the value is looked at. -/
def accumulate (radix : Nat) : Nat → List Char → Except NumeralError Nat
  | value, [] => .ok value
  | value, c :: cs =>
    match digitValue radix c with
    | none => .error .invalidDigit
    | some d =>
      if value * radix + d < UInt32.size then accumulate radix (value * radix + d) cs
      else .error .tooLarge

/-- Reads a numeral.  A sign needs a digit after it. -/
def numeral (radix : Nat) : List Char → Except NumeralError Nat
  | [] => .error .empty
  | ['+'] => .error .invalidDigit
  | '+' :: cs => accumulate radix 0 cs
  | cs => accumulate radix 0 cs

/-! ## Writing -/

/-- Lower-case hexadecimal digits without leading zeros. -/
def hex (n : Nat) : String := String.ofList (Nat.toDigits 16 n)

/-- At least eight lower-case hexadecimal digits, filled up with zeros. -/
def paddedHex (n : Nat) : String :=
  let digits := Nat.toDigits 16 n
  String.ofList (List.replicate (8 - digits.length) '0' ++ digits)

end DrmSurface.Text
