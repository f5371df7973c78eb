import PrivateLink.Catalogue.Endpoint
import PrivateLink.Proofs.Attribute.Schema
import PrivateLink.Proofs.Manager.Identifier

/-!
# What the schema lets through

Attributes that violate no declaration have what the declarations ask for, attribute by attribute,
and texts that keep the rules of the catalogue can stand where they are used.

* `ValueType.violation?_of_violations_eq_nil`: each declared attribute is fine;
* `Catalogue.mem_endpointSchema_iff`: the declarations that the schema of endpoints holds;
* `Catalogue.isSegment_of_checkGroupName`: names of resource groups can stand in identifiers.
-/

namespace PrivateLink

open Manager.Identifier

/-! ### Declarations -/

namespace ValueType

/-- Where no violation is found, each declaration on its own is kept. -/
theorem violation?_of_violations_eq_nil {fields : List Declaration} {attributes : Attributes}
    (h : violations fields attributes = []) {field : Declaration} (hmem : field ∈ fields) :
    violation? field (attributes.lookup field.name) = none := by
  induction fields with
  | nil => cases hmem
  | cons head rest ih =>
    rw [violations] at h
    split at h
    next => cases h
    next hhead =>
      cases List.mem_cons.1 hmem with
      | inl heq => rw [heq, hhead]
      | inr hrest => exact ih h hrest

/-- A value that is given as declared conforms to the type. -/
theorem check_of_violation?_eq_none {field : Declaration} {value : Value}
    (h : violation? field (some value) = none) : check field.type value = .ok () := by
  obtain ⟨name, type, required, computed, forceNew, maxItems, description⟩ := field
  rw [violation?] at h
  split at h
  next => cases h
  next =>
    split at h
    next => cases h
    next =>
      split at h
      next => cases h
      next hcheck => exact hcheck

end ValueType

/-! ### Rules -/

namespace Catalogue

/-- A value that a rule for texts accepts is a text that keeps the rule. -/
theorem rule_of_check {name : String} {rule : String → Except Fault Unit} {value : Value}
    (h : ValueType.check (ruled name .string (onText rule)) value = .ok ()) :
    ∃ text, value = .string text ∧ rule text = .ok () := by
  cases value with
  | string text =>
    refine ⟨text, rfl, ?_⟩
    rw [ruled, ValueType.check] at h
    simp only [ValueType.check, onText] at h
    cases hrule : rule text with
    | ok => rfl
    | error fault =>
      rw [hrule] at h
      cases h
  | int number => cases h
  | bool flag => cases h
  | list items => cases h
  | map entries => cases h

theorem nodup_endpointDeclarations : (endpointDeclarations.map (·.name)).Nodup := by decide

/-- The schema holds the declarations of the catalogue and no others. -/
theorem mem_endpointSchema_iff {declaration : Declaration} :
    declaration ∈ endpointSchema.declarations ↔ declaration ∈ endpointDeclarations :=
  Schema.mem_ofDeclarations_iff_mem nodup_endpointDeclarations

theorem ne_empty_of_checkNonBlank {text : String} (h : checkNonBlank text = .ok ()) :
    text ≠ "" := by
  rintro rfl
  cases h

/-- What the rule for resource groups asks of a name. -/
theorem characters_of_checkGroupName {name : String} (h : checkGroupName name = .ok ()) :
    name ≠ "" ∧ name.toList.getLast? ≠ some '.' ∧
      ∀ c ∈ name.toList, isGroupCharacter c = true := by
  unfold checkGroupName at h
  split at h
  next => cases h
  next =>
    split at h
    next => cases h
    next hlast =>
      split at h
      next => cases h
      next hchars =>
        simp only [Bool.or_eq_true, Bool.not_eq_true', not_or, Bool.not_eq_false] at hchars
        obtain ⟨hne, hall⟩ := hchars
        refine ⟨?_, hlast, List.all_eq_true.1 hall⟩
        rintro rfl
        exact hne rfl

/-- The name of a resource group can stand in an identifier. -/
theorem isSegment_of_checkGroupName {name : String} (h : checkGroupName name = .ok ()) :
    IsSegment name := by
  obtain ⟨hne, -, hall⟩ := characters_of_checkGroupName h
  have hslash : isGroupCharacter '/' = false := by decide +kernel
  exact ⟨hne, fun hmem => Bool.false_ne_true (hslash.symm.trans (hall '/' hmem))⟩

end Catalogue

end PrivateLink
