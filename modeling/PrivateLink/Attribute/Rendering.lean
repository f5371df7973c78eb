import PrivateLink.Attribute.Value
import PrivateLink.Json.Document

/-!
# Attribute values in JSON

Every attribute value has a JSON form. A JSON value is an attribute value when it holds no null and
no number but whole ones of sixty-four bits.
-/

namespace PrivateLink

/-- The number fits in sixty-four bits with a sign. -/
def fitsInt64 (n : Int) : Bool :=
  -(Nat.pow 2 63 : Int) ≤ n && n < (Nat.pow 2 63 : Int)

namespace Value

mutual

/-- The JSON form of a value. -/
def toJson : Value → Json
  | .string text => .text text
  | .int number => .whole number.toInt
  | .bool flag => .bool flag
  | .list items => .array (toJsonItems items)
  | .map entries => .ofMembers (toJsonEntries entries)

/-- The JSON forms of the items of a list. -/
def toJsonItems : List Value → List Json
  | [] => []
  | item :: items => toJson item :: toJsonItems items

/-- The JSON forms of the entries of a map. -/
def toJsonEntries : List (String × Value) → List (String × Json)
  | [] => []
  | entry :: entries => toJsonEntry entry :: toJsonEntries entries

/-- The JSON form of an entry. -/
def toJsonEntry : String × Value → String × Json
  | (key, value) => (key, toJson value)

end

mutual

/-- The value of which the document is the JSON form. -/
def ofJson? : Json → Option Value
  | .null => none
  | .bool flag => some (.bool flag)
  | .number (.whole n) => if fitsInt64 n then some (.int (Int64.ofInt n)) else none
  | .number (.decimal ..) => none
  | .string literal => literal.map .string
  | .array items => (ofJsonItems? items).map .list
  | .object members => (ofJsonMembers? members).map fun entries => .map (entriesOf entries)

/-- The values of the items of an array. -/
def ofJsonItems? : List Json → Option (List Value)
  | [] => some []
  | item :: items => do
    let item ← ofJson? item
    let items ← ofJsonItems? items
    return item :: items

/-- The entries of the members of an object, in their order. -/
def ofJsonMembers? : List (Json.Literal × Json) → Option (List (String × Value))
  | [] => some []
  | member :: members => do
    let member ← ofJsonMember? member
    let members ← ofJsonMembers? members
    return member :: members

/-- The entry of a member. -/
def ofJsonMember? : Json.Literal × Json → Option (String × Value)
  | (name, json) => do
    let name ← name
    let value ← ofJson? json
    return (name, value)

end

end Value

/-- The JSON object of attributes. -/
def Attributes.toJson (attributes : Attributes) : Json :=
  (Value.map attributes).toJson

end PrivateLink
