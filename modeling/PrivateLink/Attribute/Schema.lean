import PrivateLink.Attribute.ValueType

/-!
# Schemas

A schema holds the declarations of the attributes of one type of resource, in ascending order of
their names and one for each name. `Schema.violations` reports every declared attribute that
violates its declaration; `Schema.replacements` names the changes that need a new resource.
-/

namespace PrivateLink

/-- The declared attributes of a type of resource. -/
structure Schema where
  resourceType : String
  declarations : List Declaration
  description : Option String := none

namespace Schema

/-- The schema of a list of declarations; of declarations of the same name the last one counts. -/
def ofDeclarations (resourceType : String) (description : Option String)
    (declarations : List Declaration) : Schema where
  resourceType
  description
  declarations := arrangeBy DeclarationOf.name declarations

/-- Every violation of the declarations, in ascending order of the names. -/
def violations (schema : Schema) (attributes : Attributes) : List Violation :=
  ValueType.violations schema.declarations attributes

/-- An attribute that needs a new resource is given on both sides and differs. -/
def needsReplacement (current desired : Attributes) (declaration : Declaration) : Bool :=
  declaration.forceNew &&
    match current.lookup declaration.name, desired.lookup declaration.name with
    | some before, some after => decide (before ≠ after)
    | _, _ => false

/-- The names of the attributes whose change needs a new resource, in ascending order. -/
def replacements (schema : Schema) (current desired : Attributes) : List String :=
  (schema.declarations.filter (needsReplacement current desired)).map (·.name)

end Schema

end PrivateLink
