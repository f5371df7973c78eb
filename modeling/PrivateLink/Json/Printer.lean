import PrivateLink.Json.Basic

/-!
# Writing JSON

`Json.compact` writes a document without white space, `Json.pretty` with one item or member a line
and two spaces for each level. Members stand in the order of the document. In strings only the
quote, the backslash and control characters are escaped.
-/

namespace PrivateLink.Json

/-- The digit of a hexadecimal place, in lower case. -/
def hexDigit (n : Nat) : Char :=
  Nat.digitChar (n % 16)

/-- One character of a string. -/
def escapedChar (c : Char) : List Char :=
  if c = '"' then ['\\', '"']
  else if c = '\\' then ['\\', '\\']
  else if c = '\x08' then ['\\', 'b']
  else if c = '\x0c' then ['\\', 'f']
  else if c = '\n' then ['\\', 'n']
  else if c = '\r' then ['\\', 'r']
  else if c = '\t' then ['\\', 't']
  else if c.toNat < 0x20 then
    ['\\', 'u', '0', '0', hexDigit (c.toNat / 16), hexDigit c.toNat]
  else [c]

/-- A string with its quotes. A literal without a text is written as the empty string. -/
def literalChars (literal : Literal) : List Char :=
  '"' :: (literal.getD "").toList.flatMap escapedChar ++ ['"']

/-- A whole number in decimal. -/
def wholeChars (value : Int) : List Char :=
  if value < 0 then '-' :: Nat.toDigits 10 value.natAbs else Nat.toDigits 10 value.natAbs

/-- The digits with a point before the last `places` of them, at least one digit before it. -/
def pointedChars (digits places : Nat) : List Char :=
  let chars := Nat.toDigits 10 digits
  let padded := List.replicate (places + 1 - chars.length) '0' ++ chars
  padded.take (padded.length - places) ++ '.' :: padded.drop (padded.length - places)

/-- A number. Up to twenty digits behind the point are written out, otherwise the exponent is. -/
def numberChars : Number → List Char
  | .whole value => wholeChars value
  | .decimal negative digits exponent =>
    let sign := if negative then ['-'] else []
    if -20 ≤ exponent ∧ exponent < 0 then sign ++ pointedChars digits exponent.natAbs
    else sign ++ Nat.toDigits 10 digits ++ 'e' :: wholeChars exponent

mutual

/-- A document without white space. -/
def compactChars : Json → List Char
  | .null => ['n', 'u', 'l', 'l']
  | .bool true => ['t', 'r', 'u', 'e']
  | .bool false => ['f', 'a', 'l', 's', 'e']
  | .number value => numberChars value
  | .string literal => literalChars literal
  | .array [] => ['[', ']']
  | .array (item :: items) => '[' :: compactChars item ++ compactItems items
  | .object [] => ['{', '}']
  | .object (member :: members) => '{' :: compactMember member ++ compactMembers members

/-- The items behind the first one, up to the closing bracket. -/
def compactItems : List Json → List Char
  | [] => [']']
  | item :: items => ',' :: compactChars item ++ compactItems items

/-- The members behind the first one, up to the closing brace. -/
def compactMembers : List (Literal × Json) → List Char
  | [] => ['}']
  | member :: members => ',' :: compactMember member ++ compactMembers members

/-- A name and its value. -/
def compactMember : Literal × Json → List Char
  | (name, value) => literalChars name ++ ':' :: compactChars value

end

/-- The document on one line. -/
def compact (json : Json) : String :=
  String.ofList (compactChars json)

/-- A new line and the indentation of the level. -/
def lineBreak (level : Nat) : List Char :=
  '\n' :: List.replicate (2 * level) ' '

mutual

/-- A document whose own line is indented by `level`. -/
def prettyChars (level : Nat) : Json → List Char
  | .null => ['n', 'u', 'l', 'l']
  | .bool true => ['t', 'r', 'u', 'e']
  | .bool false => ['f', 'a', 'l', 's', 'e']
  | .number value => numberChars value
  | .string literal => literalChars literal
  | .array [] => ['[', ']']
  | .array (item :: items) =>
    '[' :: lineBreak (level + 1) ++ prettyChars (level + 1) item ++ prettyItems level items
  | .object [] => ['{', '}']
  | .object (member :: members) =>
    '{' :: lineBreak (level + 1) ++ prettyMember (level + 1) member ++ prettyMembers level members

/-- The items behind the first one, up to the closing bracket at the indentation of `level`. -/
def prettyItems (level : Nat) : List Json → List Char
  | [] => lineBreak level ++ [']']
  | item :: items =>
    ',' :: lineBreak (level + 1) ++ prettyChars (level + 1) item ++ prettyItems level items

/-- The members behind the first one, up to the closing brace at the indentation of `level`. -/
def prettyMembers (level : Nat) : List (Literal × Json) → List Char
  | [] => lineBreak level ++ ['}']
  | member :: members =>
    ',' :: lineBreak (level + 1) ++ prettyMember (level + 1) member ++ prettyMembers level members

/-- A name and its value, whose own line is indented by `level`. -/
def prettyMember (level : Nat) : Literal × Json → List Char
  | (name, value) => literalChars name ++ ':' :: ' ' :: prettyChars level value

end

/-- The document on several lines. -/
def pretty (json : Json) : String :=
  String.ofList (prettyChars 0 json)

end PrivateLink.Json
