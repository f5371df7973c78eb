import PrivateLink.Attribute.Value
import PrivateLink.Attribute.Violation

/-!
# Types of attribute values

A type says which values an attribute accepts: scalars by kind, lists and maps by the type of their
members, blocks by the declarations of their attributes, and custom types by a base type and a check
of their own.

`ValueType.check` finds the first violation of a value, except that in a block every attribute is
checked and all violations are reported together.
-/

namespace PrivateLink

/-- The declaration of an attribute, whose type is given in terms of `τ`. -/
structure DeclarationOf (τ : Type) where
  name : String
  type : τ
  /-- The attribute must be given. -/
  required : Bool := false
  /-- Only the service sets the attribute. -/
  computed : Bool := false
  /-- A change of the attribute needs a new resource. -/
  forceNew : Bool := false
  /-- The most items that a list may hold. -/
  maxItems : Option Nat := none
  description : Option String := none

/-- The type of a value. -/
inductive ValueType where
  | string
  | int
  | bool
  | custom (name : String) (base : ValueType) (accepts : Value → Except String Unit)
  | list (item : ValueType)
  | map (item : ValueType)
  | block (fields : List (DeclarationOf ValueType))

/-- The declaration of an attribute. -/
abbrev Declaration := DeclarationOf ValueType

instance : Inhabited ValueType := ⟨.string⟩

namespace ValueType

/-- The name of the type. -/
def name : ValueType → String
  | .string => "String"
  | .int => "Int"
  | .bool => "Bool"
  | .custom name _ _ => name
  | .list item => "List<" ++ item.name ++ ">"
  | .map item => "Map<" ++ item.name ++ ">"
  | .block _ => "Block"

/-- The first violation among items, which are counted from `index`. -/
def checkItems (check : Value → Except Violation Unit) (index : Nat) :
    List Value → Except Violation Unit
  | [] => .ok ()
  | item :: items =>
    match check item with
    | .error violation => .error (.item index violation)
    | .ok () => checkItems check (index + 1) items

/-- The first violation among the entries of a map, in ascending key order. -/
def checkEntries (check : Value → Except Violation Unit) : Attributes → Except Violation Unit
  | [] => .ok ()
  | entry :: entries =>
    match check entry.2 with
    | .error violation => .error (.entry entry.1 violation)
    | .ok () => checkEntries check entries

/-- A given list holds more items than the bound allows. -/
def excess? (maxItems : Option Nat) (value : Value) : Option (Nat × Nat) :=
  match maxItems, value with
  | some most, .list items => if most < items.length then some (most, items.length) else none
  | _, _ => none

mutual

/-- Whether a value conforms to the type, and how it fails if not. -/
def check : ValueType → Value → Except Violation Unit
  | .string, .string _ => .ok ()
  | .int, .int _ => .ok ()
  | .bool, .bool _ => .ok ()
  | .custom _ base accepts, value =>
    match check base value with
    | .error violation => .error violation
    | .ok () =>
      match accepts value with
      | .error reason => .error (.rejected reason)
      | .ok () => .ok ()
  | .list item, .list items => checkItems (fun value => check item value) 0 items
  | .map item, .map entries => checkEntries (fun value => check item value) entries
  | .block fields, .map entries =>
    match violations fields entries with
    | [] => .ok ()
    | found => .error (.block found)
  | .string, value => .error (.mismatch "String" value.kindName)
  | .int, value => .error (.mismatch "Int" value.kindName)
  | .bool, value => .error (.mismatch "Bool" value.kindName)
  | .list item, value => .error (.mismatch (name (.list item)) value.kindName)
  | .map item, value => .error (.mismatch (name (.map item)) value.kindName)
  | .block _, value => .error (.mismatch "Block" value.kindName)

/-- The violations of the declared attributes, at most one for each, in the order of the
declarations. Attributes without a declaration are free. -/
def violations : List (DeclarationOf ValueType) → Attributes → List Violation
  | [], _ => []
  | field :: fields, attributes =>
    match violation? field (attributes.lookup field.name) with
    | some found => found :: violations fields attributes
    | none => violations fields attributes

/-- How the value given for a declared attribute, if any, fails the declaration. -/
def violation? : DeclarationOf ValueType → Option Value → Option Violation
  | ⟨name, _, required, _, _, _, _⟩, none => if required then some (.missing name) else none
  | ⟨name, type, _, computed, _, maxItems, _⟩, some value =>
    if computed then some (.computed name)
    else
      match excess? maxItems value with
      | some (most, found) => some (.tooMany name most found)
      | none =>
        match check type value with
        | .error found => some (.attribute name found)
        | .ok () => none

end

end ValueType

end PrivateLink
