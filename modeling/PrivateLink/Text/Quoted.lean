import PrivateLink.Text.GraphemeExtend
import PrivateLink.Text.Unprintable

/-!
# Quoted text

Messages show a text between double quotes. The quote, the backslash and four control characters are
written with a backslash; any other character that has no visible form of its own (`isHidden`) is
written as its code point in hexadecimal. All else stands for itself.

Among the characters without a form of their own are those with the Unicode property
`Default_Ignorable_Code_Point`, which leave no trace where they are not supported. Most of them are
format characters, marks or unassigned; the fillers for missing parts of a Hangul syllable are
letters and yet stand for nothing that could be seen.
-/

namespace PrivateLink.Text

/-! ### Characters that are not displayed -/

/-- Code points with the Unicode property `Default_Ignorable_Code_Point`. -/
def defaultIgnorableRanges : CodeRanges :=
  [(0xAD, 0xAD), (0x34F, 0x34F), (0x61C, 0x61C), (0x115F, 0x1160), (0x17B4, 0x17B5),
   (0x180B, 0x180F), (0x200B, 0x200F), (0x202A, 0x202E), (0x2060, 0x206F), (0x3164, 0x3164),
   (0xFE00, 0xFE0F), (0xFEFF, 0xFEFF), (0xFFA0, 0xFFA0), (0xFFF0, 0xFFF8), (0x1BCA0, 0x1BCA3),
   (0x1D173, 0x1D17A), (0xE0000, 0xE0FFF)]

/-- The character is not displayed. -/
def isDefaultIgnorable (c : Char) : Bool :=
  defaultIgnorableRanges.contains c

/-! ### Quotes -/

/-- The hexadecimal digits of a number, in lower case and without leading zeros. -/
def hexDigits (n : Nat) : List Char :=
  Nat.toDigits 16 n

/-- The character cannot be seen, or not apart from the character before it. -/
def isHidden (c : Char) : Bool :=
  isOverlaid c || isDefaultIgnorable c || isUnprintable c

/-- One character as it is written between quotes. -/
def quotedChar (c : Char) : List Char :=
  if c = '"' then ['\\', '"']
  else if c = '\\' then ['\\', '\\']
  else if c = '\n' then ['\\', 'n']
  else if c = '\r' then ['\\', 'r']
  else if c = '\t' then ['\\', 't']
  else if c = '\x00' then ['\\', '0']
  else if isHidden c then
    ['\\', 'u', '\x7b'] ++ hexDigits c.toNat ++ ['\x7d']
  else [c]

/-- The text between double quotes. -/
def quoted (text : String) : String :=
  String.ofList ('"' :: text.toList.flatMap quotedChar ++ ['"'])

end PrivateLink.Text
