/-!
# UTF-8

Reading a list of bytes as UTF-8, with the place and the extent of the
first fault.

A well-formed sequence has one of the shapes below.  The second byte
carries the restrictions that exclude overlong forms, surrogates and
values above `0x10ffff`; every later byte lies in `80..bf`.

| first byte | second byte | length |
|---|---|---|
| `00..7f` | | 1 |
| `c2..df` | `80..bf` | 2 |
| `e0` | `a0..bf` | 3 |
| `e1..ec`, `ee..ef` | `80..bf` | 3 |
| `ed` | `80..9f` | 3 |
| `f0` | `90..bf` | 4 |
| `f1..f3` | `80..bf` | 4 |
| `f4` | `80..8f` | 4 |

A fault covers the bytes that were well formed up to it: one byte when the
first or the second byte is wrong, two or three when a later one is.
-/

namespace DrmSurface.Text

/-- The first fault of a list of bytes. -/
inductive Utf8Error where
  /-- `count` bytes from `index` start no well-formed sequence. -/
  | invalid (count index : Nat)
  /-- The bytes end inside a sequence that starts at `index`. -/
  | incomplete (index : Nat)
  deriving DecidableEq

/-- The wording of a fault. -/
def Utf8Error.message : Utf8Error → String
  | .invalid count index => s!"invalid utf-8 sequence of {count} bytes from index {index}"
  | .incomplete index => s!"incomplete utf-8 byte sequence from index {index}"

/-- A byte that continues a sequence. -/
def isContinuation (b : UInt8) : Bool := 0x80 ≤ b && b ≤ 0xbf

/-- The length that the first byte of a sequence announces, and the bounds
of the second byte.  There is none for a byte that starts no sequence. -/
def leadByte (b : UInt8) : Option (Nat × UInt8 × UInt8) :=
  if b ≤ 0x7f then some (1, 0, 0)
  else if 0xc2 ≤ b && b ≤ 0xdf then some (2, 0x80, 0xbf)
  else if b == 0xe0 then some (3, 0xa0, 0xbf)
  else if b == 0xed then some (3, 0x80, 0x9f)
  else if 0xe1 ≤ b && b ≤ 0xef then some (3, 0x80, 0xbf)
  else if b == 0xf0 then some (4, 0x90, 0xbf)
  else if 0xf1 ≤ b && b ≤ 0xf3 then some (4, 0x80, 0xbf)
  else if b == 0xf4 then some (4, 0x80, 0x8f)
  else none

/-- The six bits that a continuation byte contributes. -/
def payload (b : UInt8) : Nat := b.toNat % 64

/-- Reads the bytes from position `index` on. -/
def decodeFrom (index : Nat) : List UInt8 → Except Utf8Error (List Char)
  | [] => .ok []
  | b :: rest =>
    match leadByte b with
    | none => .error (.invalid 1 index)
    | some (length, low, high) =>
      if length = 1 then (decodeFrom (index + 1) rest).map (Char.ofNat b.toNat :: ·)
      else match rest with
      | [] => .error (.incomplete index)
      | c :: rest =>
        if ¬(low ≤ c ∧ c ≤ high) then .error (.invalid 1 index)
        else if length = 2 then
          (decodeFrom (index + 2) rest).map
            (Char.ofNat (b.toNat % 32 * 64 + payload c) :: ·)
        else match rest with
        | [] => .error (.incomplete index)
        | d :: rest =>
          if ¬isContinuation d then .error (.invalid 2 index)
          else if length = 3 then
            (decodeFrom (index + 3) rest).map
              (Char.ofNat (b.toNat % 16 * 4096 + payload c * 64 + payload d) :: ·)
          else match rest with
          | [] => .error (.incomplete index)
          | e :: rest =>
            if ¬isContinuation e then .error (.invalid 3 index)
            else
              (decodeFrom (index + 4) rest).map
                (Char.ofNat
                  (b.toNat % 8 * 262144 + payload c * 4096 + payload d * 64 + payload e) :: ·)

/-- Reads a list of bytes as UTF-8. -/
def decodeUtf8 (bytes : List UInt8) : Except Utf8Error String :=
  (decodeFrom 0 bytes).map String.ofList

end DrmSurface.Text
