import Mathlib.Data.List.Nodup
import PrivateLink.Proofs.Attribute.Schema

/-!
# Changes that need a new resource

Which changes a schema refuses to make in place, said of the declarations that the schema was made
of. A schema keeps its declarations in ascending order of their names, so nothing that it reports
can tell in which order they were declared. The same holds of a schema that keeps them in any other
order, as long as it sorts them before it checks attributes, and sorts the names that it found.

* `Schema.mem_replacements_iff`, `Schema.pairwise_replacements`: the names that are reported;
* `Schema.replacements_comm`: it makes no difference which side is the current one;
* `Schema.ofDeclarations_of_perm`: the order in which declarations are added;
* `Schema.sortedByName_of_perm`, `Schema.sortedReplacements_of_perm`: the order in which they are
  kept;
* `Schema.reports_of_any_order`: all of this together.
-/

namespace PrivateLink

/-! ### Sorting by a name -/

/-- Whatever order the items stand in, sorting puts them in the one in which their names ascend. -/
theorem mergeSort_eq_of_perm {α : Type} (name : α → String) {items sorted : List α}
    (hsorted : sorted.Pairwise fun a b => name a < name b) (hperm : items.Perm sorted) :
    (items.mergeSort fun a b => decide (name a ≤ name b)) = sorted := by
  let le := fun a b => decide (name a ≤ name b)
  have hascending : (items.mergeSort le).Pairwise fun a b => le a b = true := by
    refine List.pairwise_mergeSort (fun a b c hab hbc => ?_) (fun a b => ?_) items
    · exact decide_eq_true (String.le_trans (of_decide_eq_true hab) (of_decide_eq_true hbc))
    · simpa only [le, Bool.or_eq_true, decide_eq_true_eq] using String.le_total (name a) (name b)
  have hsame : (items.mergeSort le).Perm sorted := (List.mergeSort_perm items le).trans hperm
  have hle : sorted.Pairwise fun a b => le a b = true :=
    hsorted.imp fun hlt => decide_eq_true (String.not_lt.1 (String.lt_asymm hlt))
  refine List.Perm.eq_of_pairwise (fun a b ha hb hab hba => ?_) hascending hle hsame
  have hname : name a = name b :=
    String.le_antisymm (of_decide_eq_true hab) (of_decide_eq_true hba)
  exact List.inj_on_of_nodup_map (nodup_keys hsorted) (hsame.mem_iff.1 ha) hb hname

namespace Schema

variable {schema : Schema} {current desired : Attributes} {declaration : Declaration}
  {declarations others : List Declaration} {name : String}

/-! ### What needs a new resource -/

/-- The attribute is given on both sides, and not with the same value. -/
def Differs (current desired : Attributes) (name : String) : Prop :=
  ∃ before after, current.lookup name = some before ∧ desired.lookup name = some after ∧
    before ≠ after

theorem Differs.symm (h : Differs current desired name) : Differs desired current name := by
  obtain ⟨before, after, hbefore, hafter, hne⟩ := h
  exact ⟨after, before, hafter, hbefore, hne.symm⟩

theorem needsReplacement_iff :
    needsReplacement current desired declaration = true ↔
      declaration.forceNew = true ∧ Differs current desired declaration.name := by
  rw [needsReplacement, Bool.and_eq_true]
  refine and_congr_right fun _ => ?_
  constructor
  · intro h
    split at h
    next before after hbefore hafter =>
      exact ⟨before, after, hbefore, hafter, of_decide_eq_true h⟩
    next => cases h
  · rintro ⟨before, after, hbefore, hafter, hne⟩
    rw [hbefore, hafter]
    exact decide_eq_true hne

/-- The two sides play the same part. -/
theorem needsReplacement_comm (current desired : Attributes) :
    needsReplacement current desired = needsReplacement desired current := by
  funext declaration
  rw [Bool.eq_iff_iff, needsReplacement_iff, needsReplacement_iff]
  exact and_congr_right fun _ => ⟨Differs.symm, Differs.symm⟩

theorem replacements_comm (schema : Schema) (current desired : Attributes) :
    schema.replacements current desired = schema.replacements desired current := by
  rw [replacements, needsReplacement_comm, ← replacements]

/-- **The names that are reported** are those of declared attributes that ask for a new resource and
differ. -/
theorem mem_replacements_iff :
    name ∈ schema.replacements current desired ↔
      ∃ declaration ∈ schema.declarations, declaration.name = name ∧
        declaration.forceNew = true ∧ Differs current desired name := by
  rw [replacements, List.mem_map]
  constructor
  · rintro ⟨declaration, hmem, rfl⟩
    obtain ⟨hdeclared, hneeds⟩ := List.mem_filter.1 hmem
    exact ⟨declaration, hdeclared, rfl, needsReplacement_iff.1 hneeds⟩
  · rintro ⟨declaration, hdeclared, rfl, hneeds⟩
    exact ⟨declaration, List.mem_filter.2 ⟨hdeclared, needsReplacement_iff.2 hneeds⟩, rfl⟩

/-- The names that are reported ascend, so none is reported twice. -/
theorem pairwise_replacements (h : Ascend schema.declarations) :
    (schema.replacements current desired).Pairwise (· < ·) :=
  List.pairwise_map.2 (h.sublist List.filter_sublist)

/-! ### The order of declarations -/

variable (resourceType : String) (description : Option String)

/-- **A schema does not depend on the order in which attributes are declared**, as long as none is
declared twice. -/
theorem ofDeclarations_of_perm (hnames : (declarations.map (·.name)).Nodup)
    (hperm : others.Perm declarations) :
    ofDeclarations resourceType description others =
      ofDeclarations resourceType description declarations := by
  have hsame : arrangeBy DeclarationOf.name others = arrangeBy DeclarationOf.name declarations :=
    arrangeBy_eq_of_perm (pairwise_arrangeBy declarations)
      (hperm.trans (arrangeBy_perm hnames).symm)
  exact congrArg (Schema.mk resourceType · description) hsame

/-- The declarations in ascending order of their names. -/
def sortedByName (listed : List Declaration) : List Declaration :=
  listed.mergeSort fun a b => decide (a.name ≤ b.name)

/-- The names of the attributes that need a new resource, found in any order and then sorted. -/
def sortedReplacements (current desired : Attributes) (listed : List Declaration) : List String :=
  ((listed.filter (needsReplacement current desired)).map (·.name)).mergeSort
    fun a b => decide (a ≤ b)

variable {listed : List Declaration}

/-- However the declarations of a schema are listed, sorting brings back their order. -/
theorem sortedByName_of_perm (h : Ascend schema.declarations)
    (hperm : listed.Perm schema.declarations) : sortedByName listed = schema.declarations :=
  mergeSort_eq_of_perm DeclarationOf.name h hperm

/-- However they are listed, the names that are found are those that the schema reports. -/
theorem sortedReplacements_of_perm (h : Ascend schema.declarations)
    (hperm : listed.Perm schema.declarations) :
    sortedReplacements current desired listed = schema.replacements current desired :=
  mergeSort_eq_of_perm id (pairwise_replacements h) ((hperm.filter _).map _)

/-- **What a schema reports does not depend on any order.** Of the attributes that were declared,
the last declaration of each name counts. The names of those whose change needs a new resource
ascend strictly: they are the attributes that are given on both sides with different values and
whose declaration asks for a new resource, and it makes no difference which side is the current one.
Declarations with different names may be added in any order, and the schema may list the ones that
it has in any order: neither the names nor the violations that are found change. -/
theorem reports_of_any_order (declarations : List Declaration) (current desired : Attributes) :
    let schema := ofDeclarations resourceType description declarations
    ((schema.replacements current desired).Pairwise (· < ·) ∧
      ∀ name, name ∈ schema.replacements current desired ↔
        ∃ declaration, Counts declaration declarations ∧ declaration.name = name ∧
          declaration.forceNew = true ∧ Differs current desired name) ∧
    schema.replacements desired current = schema.replacements current desired ∧
    (∀ others : List Declaration, (declarations.map (·.name)).Nodup → others.Perm declarations →
      (ofDeclarations resourceType description others).replacements current desired =
          schema.replacements current desired ∧
        (ofDeclarations resourceType description others).violations desired =
          schema.violations desired) ∧
    ∀ listed : List Declaration, listed.Perm schema.declarations →
      sortedReplacements current desired listed = schema.replacements current desired ∧
        ValueType.violations (sortedByName listed) desired = schema.violations desired := by
  intro schema
  have hascend : Ascend schema.declarations :=
    ascend_ofDeclarations resourceType description declarations
  refine ⟨⟨pairwise_replacements hascend, fun name => ?_⟩, replacements_comm .., ?_, ?_⟩
  · simp only [mem_replacements_iff, schema, mem_ofDeclarations_iff]
  · intro others hnames hperm
    rw [ofDeclarations_of_perm resourceType description hnames hperm]
    exact ⟨rfl, rfl⟩
  · intro listed hperm
    rw [sortedReplacements_of_perm hascend hperm, sortedByName_of_perm hascend hperm]
    exact ⟨rfl, rfl⟩

/-- Three declarations that are added backwards, or listed as they were declared. -/
theorem reports_of_any_order_backwards :
    let declarations : List Declaration :=
      [{ name := "name", type := .string, required := true, forceNew := true },
       { name := "location", type := .string, forceNew := true },
       { name := "subnet_id", type := .string }]
    let current : Attributes :=
      [("location", .string "westeurope"), ("name", .string "ep1"), ("subnet_id", .string "a")]
    let desired : Attributes :=
      [("location", .string "eastus"), ("name", .string "ep2"), ("subnet_id", .string "b")]
    let schema := ofDeclarations "endpoint" none declarations
    ((declarations.map (·.name)).Nodup ∧ declarations.reverse.Perm declarations ∧
        declarations.Perm schema.declarations) ∧
      (ofDeclarations "endpoint" none declarations.reverse).replacements current desired =
        ["location", "name"] ∧
      sortedReplacements current desired declarations = ["location", "name"] := by
  intro declarations current desired schema
  have hnames : (declarations.map (·.name)).Nodup := by decide
  have hbackwards : declarations.reverse.Perm declarations := List.reverse_perm declarations
  have hlisted : declarations.Perm schema.declarations := List.Perm.swap ..
  have hfound : schema.replacements current desired = ["location", "name"] := by
    decide +kernel
  obtain ⟨-, -, hadded, hkept⟩ :=
    reports_of_any_order "endpoint" none declarations current desired
  exact ⟨⟨hnames, hbackwards, hlisted⟩, (hadded _ hnames hbackwards).1.trans hfound,
    (hkept _ hlisted).1.trans hfound⟩

end Schema

end PrivateLink
