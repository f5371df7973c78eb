/-!
# Characters and texts

What every module needs that looks at the characters of a text.

A property of characters that follows no formula is kept as a list of ranges of code points, both
ends included and in ascending order; `CodeRanges.contains` decides the property. White space is one
of them: a text is blank when it holds nothing else, and `trim` takes it off both ends.

Names that the service compares without regard to case are compared by the twenty-six plain letters
alone (`equalIgnoringCase`). Settings and headers give whole numbers in decimal (`natural64?`): an
optional plus sign, then at least one digit, leading zeros allowed. A number beyond the limit is
refused, never cut down.
-/

namespace PrivateLink.Text

/-! ### Ranges of code points -/

/-- Ranges of code points, both ends included. -/
abbrev CodeRanges := List (Nat × Nat)

/-- A character belongs to the ranges when one of them holds its code point. -/
def CodeRanges.contains (ranges : CodeRanges) (c : Char) : Bool :=
  ranges.any fun range => range.1 ≤ c.toNat && c.toNat ≤ range.2

theorem CodeRanges.contains_iff {ranges : CodeRanges} {c : Char} :
    ranges.contains c = true ↔ ∃ range ∈ ranges, range.1 ≤ c.toNat ∧ c.toNat ≤ range.2 := by
  simp [CodeRanges.contains]

/-! ### White space -/

/-- Code points with the Unicode property `White_Space`. -/
def blankRanges : CodeRanges :=
  [(0x9, 0xD), (0x20, 0x20), (0x85, 0x85), (0xA0, 0xA0), (0x1680, 0x1680), (0x2000, 0x200A),
   (0x2028, 0x2029), (0x202F, 0x202F), (0x205F, 0x205F), (0x3000, 0x3000)]

/-- The character is white space. -/
def isBlank (c : Char) : Bool :=
  blankRanges.contains c

/-- The text is empty or consists of white space. -/
def isBlankText (text : String) : Bool :=
  text.toList.all isBlank

/-- The characters without the white space at both ends. -/
def trimChars (chars : List Char) : List Char :=
  ((chars.dropWhile isBlank).reverse.dropWhile isBlank).reverse

/-- The text without the white space at both ends. -/
def trim (text : String) : String :=
  String.ofList (trimChars text.toList)

/-! ### Letter case of plain letters -/

/-- The characters with plain capitals turned into small letters. -/
def foldCase (text : String) : List Char :=
  text.toList.map Char.toLower

/-- The texts differ at most in the case of plain letters. -/
def equalIgnoringCase (a b : String) : Bool :=
  foldCase a == foldCase b

theorem equalIgnoringCase_iff {a b : String} :
    equalIgnoringCase a b = true ↔ foldCase a = foldCase b := by
  simp [equalIgnoringCase]

theorem equalIgnoringCase_refl (a : String) : equalIgnoringCase a a = true :=
  equalIgnoringCase_iff.2 rfl

/-! ### Whole numbers -/

/-- The number that decimal digits write, if the characters are digits. -/
def digitsValue : Nat → List Char → Option Nat
  | value, [] => some value
  | value, c :: rest =>
    if c.isDigit then digitsValue (10 * value + (c.toNat - '0'.toNat)) rest else none

/-- The whole number that the characters write. -/
def naturalOfChars : List Char → Option Nat
  | '+' :: c :: rest => digitsValue 0 (c :: rest)
  | c :: rest => digitsValue 0 (c :: rest)
  | [] => none

/-- Numbers of sixty-four bits lie below this limit. -/
def limit64 : Nat := Nat.pow 2 64

/-- The whole number below `limit64` that the text writes. -/
def natural64? (text : String) : Option Nat :=
  (naturalOfChars text.toList).filter (· < limit64)

end PrivateLink.Text
