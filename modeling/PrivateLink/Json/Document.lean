import PrivateLink.Dictionary
import PrivateLink.Json.Basic

/-!
# Documents as values

A document that is read as a value, rather than skipped, has to make sense throughout: every string
stands for a text, every number is finite in double precision, and nesting stays within a limit. Of
members with the same name the last one counts, and the members of the value stand in ascending
order of their names.
-/

namespace PrivateLink.Json

/-- The least magnitude that double precision rounds to infinity. -/
def infinityBound : Nat := Nat.pow 2 1024 - Nat.pow 2 970

/-- The number is finite in double precision. The count of its digits settles all but the numbers
near the bound. -/
def Number.isFinite : Number → Bool
  | .whole value => value.natAbs < infinityBound
  | .decimal _ digits exponent =>
    if digits = 0 then true
    else
      let size : Int := (Nat.toDigits 10 digits).length + exponent
      if size < 300 then true
      else if 320 < size then false
      else if 0 ≤ exponent then digits * Nat.pow 10 exponent.natAbs < infinityBound
      else digits < infinityBound * Nat.pow 10 exponent.natAbs

/-- The levels of nesting that a reader of values allows. -/
def nestingLimit : Nat := 127

mutual

/-- The value of a document that nests at most `levels` deep, with members in ascending order. -/
def value (levels : Nat) : Json → Option Json
  | .null => some .null
  | .bool b => some (.bool b)
  | .number n => if n.isFinite then some (.number n) else none
  | .string literal => literal.map text
  | .array items =>
    if levels = 0 then none else (valueItems (levels - 1) items).map .array
  | .object members =>
    if levels = 0 then none
    else (valueMembers (levels - 1) members).map fun members => ofMembers (entriesOf members)

/-- The values of the items of an array. -/
def valueItems (levels : Nat) : List Json → Option (List Json)
  | [] => some []
  | item :: items => do
    let item ← value levels item
    let items ← valueItems levels items
    return item :: items

/-- The names and values of the members of an object, in their order. -/
def valueMembers (levels : Nat) : List (Literal × Json) → Option (List (String × Json))
  | [] => some []
  | member :: members => do
    let member ← valueMember levels member
    let members ← valueMembers levels members
    return member :: members

/-- The name and the value of a member. -/
def valueMember (levels : Nat) : Literal × Json → Option (String × Json)
  | (name, json) => do
    let name ← name
    let json ← value levels json
    return (name, json)

end

end PrivateLink.Json
