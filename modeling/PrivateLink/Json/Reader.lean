import PrivateLink.Json.Basic

/-!
# Reading JSON

`Json.read?` accepts exactly the JSON grammar: one value with white space around it. Strings hold no
raw control characters, numbers have no leading zeros, and no comma trails. Nesting is unlimited; a
reader that limits it does so on the document (`Json.Document`).

The functions on characters take what is left of the text and give back what they leave.
-/

namespace PrivateLink.Json

/-- White space between the parts of a document. -/
def isSpace (c : Char) : Bool :=
  c == ' ' || c == '\n' || c == '\t' || c == '\r'

/-- The text without the white space at its front. -/
def skipSpace (chars : List Char) : List Char :=
  chars.dropWhile isSpace

/-! ### String literals -/

/-- The value of a hexadecimal digit. -/
def hexValue? (c : Char) : Option Nat :=
  if '0' ≤ c ∧ c ≤ '9' then some (c.toNat - '0'.toNat)
  else if 'a' ≤ c ∧ c ≤ 'f' then some (c.toNat - 'a'.toNat + 10)
  else if 'A' ≤ c ∧ c ≤ 'F' then some (c.toNat - 'A'.toNat + 10)
  else none

/-- The value of four hexadecimal digits. -/
def hexFour? (a b c d : Char) : Option Nat := do
  let a ← hexValue? a
  let b ← hexValue? b
  let c ← hexValue? c
  let d ← hexValue? d
  return ((a * 16 + b) * 16 + c) * 16 + d

/-- The character that a backslash and one letter stand for. -/
def escaped? (c : Char) : Option Char :=
  match c with
  | '"' => some '"'
  | '\\' => some '\\'
  | '/' => some '/'
  | 'b' => some '\x08'
  | 'f' => some '\x0c'
  | 'n' => some '\n'
  | 'r' => some '\r'
  | 't' => some '\t'
  | _ => none

/-- The code points of a literal, from behind its opening quote to its closing one. Escapes may name
the halves of surrogate pairs. -/
def codes? : List Char → Option (List Nat × List Char)
  | [] => none
  | '"' :: rest => some ([], rest)
  | '\\' :: 'u' :: a :: b :: c :: d :: rest => do
    let code ← hexFour? a b c d
    let (codes, rest) ← codes? rest
    return (code :: codes, rest)
  | '\\' :: c :: rest => do
    let char ← escaped? c
    let (codes, rest) ← codes? rest
    return (char.toNat :: codes, rest)
  | c :: rest =>
    if c.toNat < 0x20 then none
    else do
      let (codes, rest) ← codes? rest
      return (c.toNat :: codes, rest)

/-- The first half of a surrogate pair. -/
def isHighSurrogate (code : Nat) : Bool :=
  0xD800 ≤ code && code ≤ 0xDBFF

/-- The second half of a surrogate pair. -/
def isLowSurrogate (code : Nat) : Bool :=
  0xDC00 ≤ code && code ≤ 0xDFFF

/-- The characters that code points stand for, each surrogate pair being one. -/
def charsOfCodes? : List Nat → Option (List Char)
  | [] => some []
  | [code] => if isHighSurrogate code || isLowSurrogate code then none else some [Char.ofNat code]
  | code :: next :: rest =>
    if isHighSurrogate code then
      if isLowSurrogate next then
        (charsOfCodes? rest).map
          (Char.ofNat (0x10000 + (code - 0xD800) * 0x400 + (next - 0xDC00)) :: ·)
      else none
    else if isLowSurrogate code then none
    else (charsOfCodes? (next :: rest)).map (Char.ofNat code :: ·)

/-- The literal behind an opening quote. -/
def literal? (chars : List Char) : Option (Literal × List Char) := do
  let (codes, rest) ← codes? chars
  return ((charsOfCodes? codes).map String.ofList, rest)

/-! ### Numbers -/

/-- The number that digits write. -/
def decimalValue (digits : List Char) : Nat :=
  digits.foldl (fun value c => 10 * value + (c.toNat - '0'.toNat)) 0

/-- At least one digit. -/
def digits? (chars : List Char) : Option (List Char × List Char) :=
  match chars.takeWhile Char.isDigit with
  | [] => none
  | digits => some (digits, chars.dropWhile Char.isDigit)

/-- The digits before the point: a single zero, or digits that start with another one. -/
def wholeDigits? : List Char → Option (List Char × List Char)
  | '0' :: rest => some (['0'], rest)
  | chars => digits? chars

/-- The digits behind a point, none without one. -/
def fractionDigits? : List Char → Option (List Char × List Char)
  | '.' :: rest => digits? rest
  | chars => some ([], chars)

/-- The exponent with its sign, if there is one. -/
def exponent? : List Char → Option (Option Int × List Char)
  | c :: rest =>
    if c = 'e' ∨ c = 'E' then
      match rest with
      | '-' :: rest => (digits? rest).map fun (ds, rest) => (some (-(decimalValue ds : Int)), rest)
      | '+' :: rest => (digits? rest).map fun (ds, rest) => (some (decimalValue ds : Int), rest)
      | rest => (digits? rest).map fun (ds, rest) => (some (decimalValue ds : Int), rest)
    else some (none, c :: rest)
  | [] => some (none, [])

/-- The number behind an optional minus sign. -/
def unsigned? (negative : Bool) (chars : List Char) : Option (Number × List Char) := do
  let (front, rest) ← wholeDigits? chars
  let (fraction, rest) ← fractionDigits? rest
  let (exponent, rest) ← exponent? rest
  let digits := decimalValue (front ++ fraction)
  if fraction.isEmpty && exponent.isNone && !(negative && digits == 0) then
    return (.whole (if negative then -(digits : Int) else digits), rest)
  else
    return (.decimal negative digits (exponent.getD 0 - fraction.length), rest)

/-- A number. -/
def number? : List Char → Option (Number × List Char)
  | '-' :: rest => unsigned? true rest
  | chars => unsigned? false chars

/-! ### Values -/

mutual

/-- A value, with white space allowed before it. The first argument bounds the number of calls. -/
def value? : Nat → List Char → Option (Json × List Char)
  | 0, _ => none
  | bound + 1, chars =>
    match skipSpace chars with
    | 'n' :: 'u' :: 'l' :: 'l' :: rest => some (.null, rest)
    | 't' :: 'r' :: 'u' :: 'e' :: rest => some (.bool true, rest)
    | 'f' :: 'a' :: 'l' :: 's' :: 'e' :: rest => some (.bool false, rest)
    | '"' :: rest => (literal? rest).map fun (literal, rest) => (.string literal, rest)
    | '[' :: rest =>
      match skipSpace rest with
      | ']' :: rest => some (.array [], rest)
      | rest => (items? bound rest).map fun (items, rest) => (.array items, rest)
    | '{' :: rest =>
      match skipSpace rest with
      | '}' :: rest => some (.object [], rest)
      | rest => (members? bound rest).map fun (members, rest) => (.object members, rest)
    | rest => (number? rest).map fun (n, rest) => (.number n, rest)

/-- The items of an array from the first one to the closing bracket. -/
def items? : Nat → List Char → Option (List Json × List Char)
  | 0, _ => none
  | bound + 1, chars => do
    let (item, rest) ← value? bound chars
    match skipSpace rest with
    | ']' :: rest => some ([item], rest)
    | ',' :: rest => (items? bound rest).map fun (items, rest) => (item :: items, rest)
    | _ => none

/-- The members of an object from the first one to the closing brace. -/
def members? : Nat → List Char → Option (List (Literal × Json) × List Char)
  | 0, _ => none
  | bound + 1, chars =>
    match skipSpace chars with
    | '"' :: rest => do
      let (name, rest) ← literal? rest
      match skipSpace rest with
      | ':' :: rest => do
        let (value, rest) ← value? bound rest
        match skipSpace rest with
        | '}' :: rest => some ([(name, value)], rest)
        | ',' :: rest =>
          (members? bound rest).map fun (members, rest) => ((name, value) :: members, rest)
        | _ => none
      | _ => none
    | _ => none

end

/-- The document that the characters write. Every two calls take at least one character, so the
bound is never met. -/
def readChars? (chars : List Char) : Option Json :=
  match value? (2 * chars.length + 2) chars with
  | some (json, rest) => if (skipSpace rest).isEmpty then some json else none
  | none => none

/-- The document that the text writes. -/
def read? (text : String) : Option Json :=
  readChars? text.toList

end PrivateLink.Json
