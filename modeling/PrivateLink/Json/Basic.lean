/-!
# JSON documents

A document is kept as it is written: members of an object stand in their order and may repeat, and a
number keeps the difference between a whole number and one with a fraction or an exponent. What a
reader makes of repeated members, or of a number too large to hold, is decided where the document is
read, since different readers decide differently.

A record is written as an object with its fields as members, or as an array of all its fields in
their declared order (`Json.fields?`). In an object a field may be left out, members that are no
fields are passed over, and no field may occur twice.
-/

namespace PrivateLink

namespace Json

/-- A number as written. A whole number has neither fraction nor exponent and is not `-0`; every
other number is its digits, read as one whole number, times a power of ten. -/
inductive Number where
  | whole (value : Int)
  | decimal (negative : Bool) (digits : Nat) (exponent : Int)
deriving DecidableEq, Repr

/-- The text of a string literal, or nothing when an escape names one half of a surrogate pair
without the other: such a literal is well formed but stands for no text. -/
abbrev Literal := Option String

end Json

/-- A JSON document. -/
inductive Json where
  | null
  | bool (value : Bool)
  | number (value : Json.Number)
  | string (literal : Json.Literal)
  | array (items : List Json)
  | object (members : List (Json.Literal × Json))
deriving Repr

namespace Json

instance : Inhabited Json := ⟨.null⟩

/-- The string literal of a text. -/
def text (value : String) : Json := .string (some value)

/-- The whole number. -/
def whole (value : Int) : Json := .number (.whole value)

/-- An object with the given members, in their order. -/
def ofMembers (members : List (String × Json)) : Json :=
  .object (members.map fun member => (some member.1, member.2))

/-- An object with the members that are present, in their order. -/
def ofPresent (members : List (String × Option Json)) : Json :=
  ofMembers (members.filterMap fun member => member.2.map (member.1, ·))

/-- The last member of an object with the given name. -/
def member? (name : String) : Json → Option Json
  | .object members => members.reverse.lookup (some name)
  | _ => none

/-- The text of a string. -/
def text? : Json → Option String
  | .string literal => literal
  | _ => none

/-! ### Fields of a record -/

/-- The names of members, if every one of them is a text. -/
def names? (members : List (Literal × Json)) : Option (List String) :=
  members.mapM (·.1)

/-- The values of the fields of a record in their declared order, those that are left out being
`none`. -/
def fields? (declared : List String) : Json → Option (List (Option Json))
  | .object members => do
    let names ← names? members
    if declared.all fun name => names.count name ≤ 1 then
      return declared.map fun name => members.lookup (some name)
    else none
  | .array items => if items.length = declared.length then some (items.map some) else none
  | _ => none

/-- The value of a field that may be absent; null counts as absent. -/
def optional? {α : Type} (decode? : Json → Option α) : Option Json → Option (Option α)
  | none => some none
  | some .null => some none
  | some json => (decode? json).map some

end Json

end PrivateLink
