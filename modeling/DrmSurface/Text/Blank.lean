/-!
# Blanks

The Unicode property `White_Space` and the trimming of a text by it.

There are two groups.

* The property.  `isBlank` holds of the 25 characters of the property.
* Trimming.  `trimList` drops the blanks at both ends of a list of
  characters, and `trim` is the same on strings.
-/

namespace DrmSurface.Text

/-! ## The property -/

/-- A character with the Unicode property `White_Space`. -/
def isBlank (c : Char) : Bool :=
  let n := c.toNat
  (0x09 ≤ n && n ≤ 0x0d) || n == 0x20 || n == 0x85 || n == 0xa0 || n == 0x1680 ||
    (0x2000 ≤ n && n ≤ 0x200a) || n == 0x2028 || n == 0x2029 || n == 0x202f ||
    n == 0x205f || n == 0x3000

/-! ## Trimming -/

/-- The list without the blanks at its two ends. -/
def trimList (cs : List Char) : List Char :=
  ((cs.dropWhile isBlank).reverse.dropWhile isBlank).reverse

/-- The text without the blanks at its two ends. -/
def trim (s : String) : String := String.ofList (trimList s.toList)

@[simp] theorem toList_trim (s : String) : (trim s).toList = trimList s.toList := by
  simp [trim]

end DrmSurface.Text
