/-!
# Violations

A violation says how a value fails its declared type. Violations inside lists, maps and blocks are
wrapped in the place where they occur, so the path from the root to the fault can be read off.
-/

namespace PrivateLink

/-- How a value fails its type. -/
inductive Violation where
  /-- The value has the wrong kind. -/
  | mismatch (expected found : String)
  /-- The value has the right kind and is refused by a further check. -/
  | rejected (reason : String)
  /-- A required attribute is absent. -/
  | missing (name : String)
  /-- An attribute that only the service sets is given. -/
  | computed (name : String)
  /-- A list holds more items than it may. -/
  | tooMany (name : String) (most found : Nat)
  /-- The value of an attribute is at fault. -/
  | attribute (name : String) (inner : Violation)
  /-- An item of a list is at fault. -/
  | item (index : Nat) (inner : Violation)
  /-- A value of a map is at fault. -/
  | entry (key : String) (inner : Violation)
  /-- Attributes of a block are at fault. -/
  | block (violations : List Violation)
deriving Repr

namespace Violation

instance : Inhabited Violation := ⟨.block []⟩

/-- Texts with a separator between neighbours. -/
def joined (separator : String) : List String → String
  | [] => ""
  | [text] => text
  | text :: texts => text ++ separator ++ joined separator texts

mutual

/-- The violation in words. -/
def message : Violation → String
  | .mismatch expected found => "Type mismatch: expected " ++ expected ++ ", got " ++ found
  | .rejected reason => "Validation failed: " ++ reason
  | .missing name => "Required attribute '" ++ name ++ "' is missing"
  | .computed name => "Attribute '" ++ name ++ "' is computed and cannot be set"
  | .tooMany name most found =>
    "Attribute '" ++ name ++ "' accepts at most " ++ toString most ++ " item(s), got " ++
      toString found
  | .attribute name inner => "Attribute '" ++ name ++ "': " ++ message inner
  | .item index inner => "List item at index " ++ toString index ++ ": " ++ message inner
  | .entry key inner => "Map value for key '" ++ key ++ "': " ++ message inner
  | .block violations => joined "; " (messages violations)

/-- The violations in words, one by one. -/
def messages : List Violation → List String
  | [] => []
  | violation :: violations => message violation :: messages violations

end

end Violation

end PrivateLink
