import PrivateLink.Dictionary

/-!
# Attribute values

The value of an attribute is a text, a whole number of sixty-four bits, a truth value, a list or a
map. The entries of a map stand in ascending key order (`Value.Canonical`), so two values are the
same value exactly when they are equal.
-/

namespace PrivateLink

/-- The value of an attribute. -/
inductive Value where
  | string (text : String)
  | int (number : Int64)
  | bool (flag : Bool)
  | list (items : List Value)
  | map (entries : List (String × Value))

/-- Attributes by name, in ascending order of the names. -/
abbrev Attributes := List (String × Value)

namespace Value

instance : Inhabited Value := ⟨.list []⟩

/-! ### Equality -/

mutual

/-- Whether two values are equal. -/
def decEq : (a b : Value) → Decidable (a = b)
  | .string s, .string t => decidable_of_iff (s = t) (by simp)
  | .int m, .int n => decidable_of_iff (m = n) (by simp)
  | .bool p, .bool q => decidable_of_iff (p = q) (by simp)
  | .list xs, .list ys =>
    have := decEqItems xs ys
    decidable_of_iff (xs = ys) (by simp)
  | .map xs, .map ys =>
    have := decEqEntries xs ys
    decidable_of_iff (xs = ys) (by simp)
  | .string _, .int _ | .string _, .bool _ | .string _, .list _ | .string _, .map _
  | .int _, .string _ | .int _, .bool _ | .int _, .list _ | .int _, .map _
  | .bool _, .string _ | .bool _, .int _ | .bool _, .list _ | .bool _, .map _
  | .list _, .string _ | .list _, .int _ | .list _, .bool _ | .list _, .map _
  | .map _, .string _ | .map _, .int _ | .map _, .bool _ | .map _, .list _ => isFalse nofun

/-- Whether two lists of values are equal. -/
def decEqItems : (xs ys : List Value) → Decidable (xs = ys)
  | [], [] => isTrue rfl
  | [], _ :: _ => isFalse nofun
  | _ :: _, [] => isFalse nofun
  | x :: xs, y :: ys =>
    have := decEq x y
    have := decEqItems xs ys
    decidable_of_iff (x = y ∧ xs = ys) (by simp)

/-- Whether two lists of entries are equal. -/
def decEqEntries : (xs ys : List (String × Value)) → Decidable (xs = ys)
  | [], [] => isTrue rfl
  | [], _ :: _ => isFalse nofun
  | _ :: _, [] => isFalse nofun
  | x :: xs, y :: ys =>
    have := decEqEntry x y
    have := decEqEntries xs ys
    decidable_of_iff (x = y ∧ xs = ys) (by simp)

/-- Whether two entries are equal. -/
def decEqEntry : (x y : String × Value) → Decidable (x = y)
  | (k, v), (l, w) =>
    have := decEq v w
    decidable_of_iff (k = l ∧ v = w) (by simp)

end

instance : DecidableEq Value := decEq

/-! ### Canonical values -/

mutual

/-- The entries of every map in the value ascend. -/
def Canonical : Value → Prop
  | .string _ | .int _ | .bool _ => True
  | .list items => CanonicalItems items
  | .map entries => Ascending entries ∧ CanonicalEntries entries

/-- Every item is canonical. -/
def CanonicalItems : List Value → Prop
  | [] => True
  | item :: items => Canonical item ∧ CanonicalItems items

/-- The value of every entry is canonical. -/
def CanonicalEntries : List (String × Value) → Prop
  | [] => True
  | entry :: entries => CanonicalEntry entry ∧ CanonicalEntries entries

/-- The value of the entry is canonical. -/
def CanonicalEntry : String × Value → Prop
  | (_, value) => Canonical value

end

/-! ### Parts of a value -/

/-- The text of a string. -/
def text? : Value → Option String
  | .string text => some text
  | _ => none

/-- The flag of a truth value. -/
def flag? : Value → Option Bool
  | .bool flag => some flag
  | _ => none

/-- The items of a list. -/
def items? : Value → Option (List Value)
  | .list items => some items
  | _ => none

/-- The entries of a map. -/
def entries? : Value → Option Attributes
  | .map entries => some entries
  | _ => none

/-- The name of the kind of the value. -/
def kindName : Value → String
  | .string _ => "String"
  | .int _ => "Int"
  | .bool _ => "Bool"
  | .list _ => "List"
  | .map _ => "Map"

/-- The list of texts. -/
def strings (texts : List String) : Value :=
  .list (texts.map .string)

end Value

/-- The attributes as a whole are canonical: the names ascend, and so do the keys of every map. -/
def Attributes.Canonical (attributes : Attributes) : Prop :=
  Ascending attributes ∧ Value.CanonicalEntries attributes

end PrivateLink
