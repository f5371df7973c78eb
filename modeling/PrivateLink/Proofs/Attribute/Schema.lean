import PrivateLink.Attribute.Schema
import PrivateLink.Proofs.Dictionary

/-!
# The declarations of a schema

A schema is made of declarations in any order. It holds them in ascending order of their names, and
of declarations with the same name it holds the last one.

* `Schema.ascend_ofDeclarations`: the names ascend;
* `Schema.mem_ofDeclarations_iff`: which declarations the schema holds;
* `Schema.mem_ofDeclarations_iff_mem`: it forgets none when their names differ.
-/

namespace PrivateLink.Schema

variable {declarations : List Declaration} {declaration : Declaration}

/-- The names ascend, so no two declarations have the same. -/
def Ascend (declarations : List Declaration) : Prop :=
  declarations.Pairwise fun a b => a.name < b.name

/-- The declaration is in the list, and none behind it has its name. -/
def Counts (declaration : Declaration) (declarations : List Declaration) : Prop :=
  CountsBy DeclarationOf.name declaration declarations

variable (resourceType : String) (description : Option String)

/-- **The names of the declarations of a schema ascend.** -/
theorem ascend_ofDeclarations (declarations : List Declaration) :
    Ascend (ofDeclarations resourceType description declarations).declarations :=
  pairwise_arrangeBy declarations

/-- **A schema holds the last declaration of each name.** -/
theorem mem_ofDeclarations_iff :
    declaration ∈ (ofDeclarations resourceType description declarations).declarations ↔
      Counts declaration declarations :=
  mem_arrangeBy_iff

/-- A schema holds just the declarations that it was made of when their names differ. -/
theorem mem_ofDeclarations_iff_mem {resourceType : String} {description : Option String}
    (hnames : (declarations.map (·.name)).Nodup) :
    declaration ∈ (ofDeclarations resourceType description declarations).declarations ↔
      declaration ∈ declarations :=
  (arrangeBy_perm hnames).mem_iff

end PrivateLink.Schema
