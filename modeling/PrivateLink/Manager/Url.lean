import PrivateLink.Json.Reader

/-!
# Addresses on the web

`Url.parse?` reads an absolute web address the way clients do: blanks around it and line breaks in
it do not count, a backslash is a slash, dot segments are resolved, and characters that may not
stand in a request are percent-encoded. What is asked of the server is the path with the query
(`Url.requestTarget?`), whether or not the connection is encrypted.
-/

namespace PrivateLink.Manager

/-- A web address, as far as a request needs it. -/
structure Url where
  /-- The connection is encrypted. -/
  secure : Bool
  host : String
  /-- The path with the query, as it is requested. -/
  target : String
deriving DecidableEq, Repr

namespace Url

/-! ### Percent-encoding -/

/-- The hexadecimal digit of a half byte, in upper case. -/
def upperHex (n : Nat) : Char :=
  (Nat.digitChar n).toUpper

/-- A byte as it is percent-encoded. -/
def encodeByte (byte : UInt8) : List Char :=
  ['%', upperHex (byte.toNat / 16), upperHex (byte.toNat % 16)]

/-- The characters with those percent-encoded that `reserved` names or that are no visible ASCII. -/
def encode (reserved : Char → Bool) (chars : List Char) : List Char :=
  chars.flatMap fun c =>
    if c.toNat ≤ 0x20 || 0x7E < c.toNat || reserved c then
      (String.utf8EncodeChar c).flatMap encodeByte
    else [c]

/-- The bytes that the characters stand for: a percent sign with two hexadecimal digits behind it is
one byte, anything else is itself. -/
def decodedBytes : List Char → List UInt8
  | '%' :: high :: low :: rest =>
    match Json.hexValue? high, Json.hexValue? low with
    | some high, some low => UInt8.ofNat (16 * high + low) :: decodedBytes rest
    | _, _ => String.utf8EncodeChar '%' ++ decodedBytes (high :: low :: rest)
  | c :: rest => String.utf8EncodeChar c ++ decodedBytes rest
  | [] => []

/-- The text that a percent-encoded text stands for, if its bytes are a text. -/
def decode? (chars : List Char) : Option String :=
  String.fromUTF8? (decodedBytes chars).toByteArray

/-- Characters that may not stand in a path. -/
def isReservedInPath (c : Char) : Bool :=
  c == '"' || c == '#' || c == '<' || c == '>' || c == '?' || c == '\x60' || c == '\x7b' ||
    c == '\x7d'

/-- Characters that may not stand in a query. -/
def isReservedInQuery (c : Char) : Bool :=
  c == '"' || c == '#' || c == '<' || c == '>' || c == '\''

/-! ### Parts -/

/-- The text without blanks around it and without line breaks and tabs. -/
def cleaned (text : String) : List Char :=
  let blank := fun c : Char => decide (c.toNat ≤ 0x20)
  (((text.toList.dropWhile blank).reverse.dropWhile blank).reverse).filter fun c =>
    c ≠ '\t' && c ≠ '\n' && c ≠ '\r'

/-- A slash of either kind. -/
def isSlash (c : Char) : Bool :=
  c == '/' || c == '\\'

/-- Split at the first character that satisfies `stop`, which stays with the second part. -/
def cut (stop : Char → Bool) (chars : List Char) : List Char × List Char :=
  (chars.takeWhile fun c => !stop c, chars.dropWhile fun c => !stop c)

/-- Whether the connection is encrypted, by the scheme before the colon, and what follows it. -/
def scheme? (chars : List Char) : Option (Bool × List Char) :=
  let (scheme, rest) := cut (· == ':') chars
  match rest with
  | [] => none
  | _ :: rest =>
    match String.ofList (scheme.map Char.toLower) with
    | "http" => some (false, rest)
    | "https" => some (true, rest)
    | _ => none

/-- A character that no host name holds. -/
def isForbiddenInHost (c : Char) : Bool :=
  c.toNat ≤ 0x20 || c == '\x7f' || "#/:<>?@[\\]^|%".toList.contains c

/-- What may stand behind the colon of a host: a number of sixteen bits, or nothing. -/
def fitsSixteenBits (digits : List Char) : Bool :=
  digits.all Char.isDigit &&
    digits.foldl (fun value c => 10 * value + (c.toNat - '0'.toNat)) 0 ≤ 65535

/-- The characters of the name of a host, which may be percent-encoded. -/
def hostName? (name : List Char) : Option (List Char) :=
  if name.contains '%' then (decode? name).map (·.toList) else some name

/-- The host named by what stands between the scheme and the path. -/
def host? (authority : List Char) : Option String :=
  let place := (authority.reverse.takeWhile (· ≠ '@')).reverse
  match place with
  | '[' :: rest =>
    let (address, rest) := cut (· == ']') rest
    match rest with
    | ']' :: [] => some (String.ofList address)
    | ']' :: ':' :: digits =>
      if fitsSixteenBits digits then some (String.ofList address) else none
    | _ => none
  | _ =>
    let (name, digits) := cut (· == ':') place
    (hostName? name).bind fun name =>
      if name.isEmpty || name.any isForbiddenInHost || !fitsSixteenBits (digits.drop 1) then none
      else some (String.ofList (name.map Char.toLower))

/-! ### Paths -/

/-- The segment is a dot, plain or percent-encoded. -/
def isDot (segment : List Char) : Bool :=
  let folded := segment.map Char.toLower
  folded == ".".toList || folded == "%2e".toList

/-- The segment is two dots, plain or percent-encoded. -/
def isDoubleDot (segment : List Char) : Bool :=
  let folded := segment.map Char.toLower
  folded == "..".toList || folded == ".%2e".toList || folded == "%2e.".toList ||
    folded == "%2e%2e".toList

/-- The parts between slashes of either kind, always at least one. -/
def segments : List Char → List (List Char)
  | [] => [[]]
  | c :: rest =>
    match segments rest with
    | [] => [[]]
    | head :: tail => if isSlash c then [] :: head :: tail else (c :: head) :: tail

/-- The segments with dot segments resolved; `done` holds those before them, the nearest first. A
dot segment at the end leaves an empty segment. -/
def resolved (done : List (List Char)) : List (List Char) → List (List Char)
  | [] => done.reverse
  | segment :: rest =>
    if isDoubleDot segment then
      resolved (if rest.isEmpty then [] :: done.drop 1 else done.drop 1) rest
    else if isDot segment then resolved (if rest.isEmpty then [] :: done else done) rest
    else resolved (segment :: done) rest

/-- The path as it is requested, always starting with a slash. -/
def requestPath (path : List Char) : List Char :=
  (resolved [] (segments (path.drop 1))).flatMap fun segment =>
    '/' :: encode isReservedInPath segment

/-- The query as it is requested, with its question mark. -/
def requestQuery : List Char → List Char
  | '?' :: query => '?' :: encode isReservedInQuery query
  | _ => []

/-- The web address that the text writes. -/
def parse? (text : String) : Option Url := do
  let (secure, rest) ← scheme? (cleaned text)
  let (authority, rest) := cut (fun c => isSlash c || c == '?' || c == '#') (rest.dropWhile isSlash)
  let host ← host? authority
  let (path, rest) := cut (fun c => c == '?' || c == '#') rest
  let (query, _) := cut (· == '#') rest
  return { secure, host, target := String.ofList (requestPath path ++ requestQuery query) }

/-- What is asked for at the address that the text writes, with or without encryption. -/
def requestTarget? (text : String) : Option String :=
  (parse? text).map (·.target)

end Url

end PrivateLink.Manager
