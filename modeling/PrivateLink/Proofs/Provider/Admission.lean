import PrivateLink.Proofs.Endpoint.Description
import PrivateLink.Proofs.Provider.Accepted
import PrivateLink.ResourceFile

/-!
# Which resources are accepted

The schema and the readers of attributes look at the same attributes on their own, and they agree:
what the schema lets through describes an endpoint, so nobody who has checked a resource by its
schema finds it refused later on.

* `admitted_describes`: what the schema lets through, and who accepts which resource;
* `isDesired_of_specOf`: the endpoint of an accepted resource can be asked for.
-/

namespace PrivateLink.Provider

open Endpoint

/-- The endpoint that an accepted resource describes is one that can be asked for. -/
theorem isDesired_of_specOf {resource : Resource} {spec : Spec} (h : specOf resource = .ok spec) :
    spec.IsDesired := by
  obtain ⟨hviolations, hread⟩ := accepted_of_specOf h
  obtain ⟨described, hdescribed, -, hdesired⟩ :=
    Spec.exists_ofAttributes (Catalogue.violations_endpointSchema_eq_nil_iff.1 hviolations)
  cases hread.symm.trans hdescribed
  exact hdesired

/-- A resource without a problem is one that the provider accepts. -/
theorem problem?_eq_none_iff (resource : Resource) :
    resource.problem? = none ↔ ∃ spec, specOf resource = .ok spec := by
  cases hfind : Catalogue.find? resource.address.type with
  | none =>
    have hspec : specOf resource = .error (unknownType resource.address) := by
      rw [specOf, resourceType, hfind]
      rfl
    have hproblem : resource.problem? = some (.unknownType resource.address.type) := by
      rw [Resource.problem?, hfind]
    simp [hspec, hproblem]
  | some found =>
    have htype : resourceType resource.address = .ok found := by
      rw [resourceType, hfind]
    rw [Resource.problem?, specOf, hfind, htype]
    simp only [bind, Except.bind, schema_of_find? hfind]
    cases hviolations : Catalogue.endpointSchema.violations resource.attributes with
    | cons violation violations => simp
    | nil =>
      have hadmitted := Catalogue.violations_endpointSchema_eq_nil_iff.1 hviolations
      obtain ⟨spec, hspec, -⟩ := Spec.exists_ofAttributes hadmitted
      exact iff_of_true rfl ⟨spec, mapError_eq_ok_iff.2 hspec⟩

/-- **What the schema lets through describes an endpoint**: the readers of attributes refuse nothing
that the schema lets through; the endpoint is what the attributes say, with no more than one
connection, nothing that only the service knows, and a request message that is left out or has one
to 140 characters, not all of them white space. So a resource has no problem just when the provider
accepts it. -/
theorem admitted_describes :
    (∀ attributes : Attributes, Catalogue.endpointSchema.violations attributes = [] →
      ∃ spec, Spec.ofAttributes attributes = .ok spec ∧ spec.Holds attributes ∧
        (attributes.Canonical →
          (attributes.lookup "tags").getD (.textMap []) = .textMap spec.tags.entries) ∧
        spec.IsDesired) ∧
    ∀ resource : Resource, resource.problem? = none ↔ ∃ spec, specOf resource = .ok spec := by
  refine ⟨fun attributes hviolations => ?_, problem?_eq_none_iff⟩
  have hadmitted := Catalogue.violations_endpointSchema_eq_nil_iff.1 hviolations
  obtain ⟨spec, hread, hholds, hdesired⟩ := Spec.exists_ofAttributes hadmitted
  exact ⟨spec, hread, hholds, hholds.tags_of_canonical, hdesired⟩

/-- The attributes of an endpoint with a manual connection and a tag. -/
theorem manual_describes :
    let connection : Attributes :=
      [("is_manual_connection", .bool true), ("name", .string "c"),
       ("private_connection_resource_id", .string "r"), ("request_message", .string "please"),
       ("subresource_names", .strings ["sql", "web"])]
    let attributes : Attributes :=
      [("location", .string "West Europe"), ("name", .string "e"),
       ("private_service_connection", .list [.map connection]),
       ("resource_group_name", .string "g"), ("subnet_id", .string "n"),
       ("tags", .textMap [("a", "1"), ("b", "")])]
    attributes.Canonical ∧ Catalogue.endpointSchema.violations attributes = [] ∧
      ∃ spec, Spec.ofAttributes attributes = .ok spec ∧ spec.Holds attributes ∧
        (attributes.lookup "tags").getD (.textMap []) = .textMap spec.tags.entries ∧
        spec.IsDesired := by
  intro connection attributes
  have hcanonical : attributes.Canonical := by
    refine ⟨by decide, trivial, trivial, ⟨⟨by decide, ?_⟩, trivial⟩, trivial, trivial, ?_, trivial⟩
    · exact ⟨trivial, trivial, trivial, trivial, ⟨trivial, trivial, trivial⟩, trivial⟩
    · exact ⟨by decide, trivial, trivial, trivial⟩
  have hviolations : Catalogue.endpointSchema.violations attributes = [] := by decide +kernel
  obtain ⟨spec, hread, hholds, htags, hdesired⟩ := admitted_describes.1 attributes hviolations
  exact ⟨hcanonical, hviolations, spec, hread, hholds, htags hcanonical, hdesired⟩

end PrivateLink.Provider
