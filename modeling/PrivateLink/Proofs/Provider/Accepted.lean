import PrivateLink.Proofs.Catalogue.Accepted
import PrivateLink.Proofs.Checks
import PrivateLink.Provider

/-!
# What the provider accepts

A resource that the provider accepts has attributes that the schema lets through, so the name of its
resource group can stand in an identifier and the name of its endpoint is not empty; one that is
accepted for an update has the name that its identifier gives.

* `isSegment_group_of_specOf`, `name_ne_empty_of_specOf`: what is known of an accepted endpoint;
* `accepted_of_updateSpec`: what is known of an accepted update.
-/

namespace PrivateLink

open Manager.Identifier

namespace Endpoint

theorem lookup_of_requiredText {attributes : Attributes} {name text : String}
    (h : requiredText attributes name = .ok text) :
    attributes.lookup name = some (.string text) := by
  unfold requiredText at h
  split at h
  next found hlookup =>
    cases h
    exact hlookup
  next => cases h
  next => cases h

/-- The texts of an endpoint are those of its attributes. -/
theorem lookup_of_ofAttributes {attributes : Attributes} {spec : Spec}
    (h : Spec.ofAttributes attributes = .ok spec) :
    attributes.lookup "name" = some (.string spec.name) ∧
      attributes.lookup "resource_group_name" = some (.string spec.resourceGroup) := by
  unfold Spec.ofAttributes at h
  obtain ⟨connections, -, h⟩ := exists_of_bind_eq_ok h
  obtain ⟨tags, -, h⟩ := exists_of_bind_eq_ok h
  obtain ⟨name, hname, h⟩ := exists_of_bind_eq_ok h
  obtain ⟨location, -, h⟩ := exists_of_bind_eq_ok h
  obtain ⟨group, hgroup, h⟩ := exists_of_bind_eq_ok h
  obtain ⟨subnet, -, h⟩ := exists_of_bind_eq_ok h
  cases h
  exact ⟨lookup_of_requiredText hname, lookup_of_requiredText hgroup⟩

end Endpoint

namespace Provider

/-- The one type of resource that there is is the private link endpoint. -/
theorem schema_of_find? {name : String} {found : Catalogue.ResourceType}
    (h : Catalogue.find? name = some found) : found.schema = Catalogue.endpointSchema := by
  rw [List.mem_singleton.1 (List.mem_of_find?_eq_some h)]

theorem schema_of_resourceType {address : Address} {found : Catalogue.ResourceType}
    (h : resourceType address = .ok found) : found.schema = Catalogue.endpointSchema := by
  unfold resourceType at h
  split at h
  next hfound =>
    cases h
    exact schema_of_find? hfound
  next => cases h

/-- An accepted resource has valid attributes, and its endpoint is the one that they describe. -/
theorem accepted_of_specOf {resource : Resource} {spec : Endpoint.Spec}
    (h : specOf resource = .ok spec) :
    Catalogue.endpointSchema.violations resource.attributes = [] ∧
      Endpoint.Spec.ofAttributes resource.attributes = .ok spec := by
  unfold specOf at h
  obtain ⟨found, hfound, h⟩ := exists_of_bind_eq_ok h
  rw [schema_of_resourceType hfound] at h
  split at h
  next hviolations =>
    cases hspec : Endpoint.Spec.ofAttributes resource.attributes with
    | error fault =>
      rw [hspec] at h
      cases h
    | ok found =>
      rw [hspec] at h
      cases h
      exact ⟨hviolations, rfl⟩
  next => cases h

/-- The declared attributes of an accepted resource are as declared. -/
theorem check_of_specOf {resource : Resource} {spec : Endpoint.Spec}
    (h : specOf resource = .ok spec) {declaration : Declaration}
    (hmem : declaration ∈ Catalogue.endpointDeclarations) {value : Value}
    (hvalue : resource.attributes.lookup declaration.name = some value) :
    declaration.type.check value = .ok () := by
  have hdeclared : declaration ∈ Catalogue.endpointSchema.declarations :=
    Catalogue.mem_endpointSchema_iff.2 hmem
  have hfine := ValueType.violation?_of_violations_eq_nil (accepted_of_specOf h).1 hdeclared
  rw [hvalue] at hfine
  exact ValueType.check_of_violation?_eq_none hfine

/-- **The resource group of an accepted endpoint is a segment.** -/
theorem isSegment_group_of_specOf {resource : Resource} {spec : Endpoint.Spec}
    (h : specOf resource = .ok spec) : IsSegment spec.resourceGroup := by
  -- The third declaration is that of the resource group.
  have hmem : Catalogue.endpointDeclarations[2] ∈ Catalogue.endpointDeclarations :=
    List.getElem_mem _
  have hlookup := (Endpoint.lookup_of_ofAttributes (accepted_of_specOf h).2).2
  obtain ⟨text, htext, hrule⟩ := Catalogue.rule_of_check (check_of_specOf h hmem hlookup)
  cases htext
  exact Catalogue.isSegment_of_checkGroupName hrule

/-- The name of an accepted endpoint is not empty. -/
theorem name_ne_empty_of_specOf {resource : Resource} {spec : Endpoint.Spec}
    (h : specOf resource = .ok spec) : spec.name ≠ "" := by
  -- The first declaration is that of the name.
  have hmem : Catalogue.endpointDeclarations[0] ∈ Catalogue.endpointDeclarations :=
    List.getElem_mem _
  have hlookup := (Endpoint.lookup_of_ofAttributes (accepted_of_specOf h).2).1
  obtain ⟨text, htext, hrule⟩ := Catalogue.rule_of_check (check_of_specOf h hmem hlookup)
  cases htext
  exact Catalogue.ne_empty_of_checkNonBlank hrule

/-- An update is accepted only if its resource is, and under an identifier of the same name. -/
theorem accepted_of_updateSpec {address : Address} {identifier : String} {before : State}
    {desired : Resource} {spec : Endpoint.Spec}
    (h : updateSpec address identifier before desired = .ok spec) :
    specOf desired = .ok spec ∧
      ∃ group, Endpoint.parseId identifier = .ok (group, spec.name) := by
  unfold updateSpec at h
  obtain ⟨found, hspec, h⟩ := exists_of_bind_eq_ok h
  obtain ⟨type, -, h⟩ := exists_of_bind_eq_ok h
  dsimp only at h
  split at h
  next =>
    split at h
    next => cases h
    next group name hid =>
      split at h
      next hsame =>
        cases h
        exact ⟨hspec, group, by rw [← hsame.2]; exact hid⟩
      next => cases h
  next => cases h

end Provider

end PrivateLink
