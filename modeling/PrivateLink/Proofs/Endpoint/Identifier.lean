import PrivateLink.Cloud
import PrivateLink.Endpoint.Lifecycle
import PrivateLink.Proofs.Manager.Identifier

/-!
# Identifiers of endpoints and interfaces

The identifiers that the service gives to endpoints and interfaces are read back as the resource
group and the name that they were made of, as long as both are segments.

* `parseId_endpointId`: reading back the identifier of an endpoint;
* `nameIn_interfaceId`: reading back the identifier of an interface;
* `isSegment_of_parseId`: what the identifier of an endpoint gives is made of segments.
-/

namespace PrivateLink

open Manager Manager.Identifier

/-- The identifier of a resource as keys and values. -/
theorem Cloud.resourceId_eq (group kind name : String) :
    resourceId group kind name = String.ofList (written
      [("subscriptions", subscription), ("resourceGroups", group),
       ("providers", "Microsoft.Network"), (kind, name)]) := by
  unfold resourceId
  -- Which subscription it is does not matter here, and its many characters only cost time.
  generalize subscription = given
  apply String.toList_inj.1
  simp [written]

/-- The identifier of a resource is read with the keys and values it was made of. -/
theorem Cloud.parse_resourceId {group kind name : String} (hgroup : IsSegment group)
    (hkind : IsSegment kind) (hname : IsSegment name) :
    Identifier.parse (resourceId group kind name) =
      .ok { subscription, resourceGroup := group, provider := some "Microsoft.Network",
            path := [(kind, name)] } := by
  have hsegments : AreSegments
      [("subscriptions", subscription), ("resourceGroups", group),
       ("providers", "Microsoft.Network"), (kind, name)] := by
    intro pair hmem
    simp only [List.mem_cons, List.not_mem_nil, or_false] at hmem
    rcases hmem with rfl | rfl | rfl | rfl
    · decide
    · exact ⟨(by decide : IsSegment "resourceGroups"), hgroup⟩
    · decide
    · exact ⟨hkind, hname⟩
  rw [resourceId_eq, parse_written (List.cons_ne_nil _ _) hsegments]
  simp [Parts.add, Parts.identifier, Text.equalIgnoringCase_refl]

theorem Cloud.endpointId_ne_empty (group name : String) : endpointId group name ≠ "" := by
  intro hempty
  rw [endpointId, resourceId_eq, written] at hempty
  have hchars := congrArg String.toList hempty
  rw [String.toList_ofList] at hchars
  exact List.cons_ne_nil _ _ hchars

namespace Endpoint

/-- The name of a resource is found in its identifier under the kind of the resource. -/
theorem nameIn_resourceId {group kind name : String} (hgroup : IsSegment group)
    (hkind : IsSegment kind) (hname : IsSegment name) :
    ∃ identifier, nameIn kind (Cloud.resourceId group kind name) = .ok (identifier, name) ∧
      identifier.resourceGroup = group := by
  refine ⟨⟨Cloud.subscription, group, some "Microsoft.Network", [(kind, name)]⟩, ?_, rfl⟩
  simp only [nameIn, Cloud.parse_resourceId hgroup hkind hname, Identifier.get?,
    List.lookup_cons_self]

/-- **The identifier of an endpoint is read back.** -/
theorem parseId_endpointId {group name : String} (hgroup : IsSegment group)
    (hname : IsSegment name) : parseId (Cloud.endpointId group name) = .ok (group, name) := by
  have hkind : IsSegment "privateEndpoints" := by decide
  obtain ⟨identifier, hnamed, rfl⟩ := nameIn_resourceId hgroup hkind hname
  rw [parseId, Cloud.endpointId, hnamed]
  rfl

/-- **The identifier of an interface is read back.** -/
theorem nameIn_interfaceId {group name : String} (hgroup : IsSegment group)
    (hname : IsSegment name) :
    ∃ identifier, nameIn "networkInterfaces" (Cloud.interfaceId group name) =
      .ok (identifier, name) := by
  have hkind : IsSegment "networkInterfaces" := by decide
  obtain ⟨identifier, hnamed, -⟩ := nameIn_resourceId hgroup hkind hname
  exact ⟨identifier, hnamed⟩

/-- **Resource group and name of an endpoint are segments**, whatever identifier they come from. -/
theorem isSegment_of_parseId {id group name : String} (h : parseId id = .ok (group, name)) :
    IsSegment group ∧ IsSegment name := by
  unfold parseId nameIn at h
  cases hparse : Identifier.parse id with
  | error fault =>
    rw [hparse] at h
    cases h
  | ok identifier =>
    simp only [hparse] at h
    cases hname : identifier.get? "privateEndpoints" with
    | none =>
      rw [hname] at h
      cases h
    | some found =>
      rw [hname] at h
      cases h
      exact ⟨(isSegment_of_parse hparse).2.1, isSegment_of_get? hparse hname⟩

/-- The name of an attached interface is a segment if the name of the endpoint is. -/
theorem isSegment_attachedName {name : String} (h : IsSegment name) :
    IsSegment (Cloud.attachedName name) := by
  have hsuffix : '/' ∉ ".nic.0a1b2c".toList := by decide
  refine ⟨fun hempty => h.toList_ne_nil ?_, ?_⟩
  · have hnil := String.toList_eq_nil_iff.2 hempty
    rw [Cloud.attachedName, String.toList_append] at hnil
    exact (List.append_eq_nil_iff.1 hnil).1
  · rw [Cloud.attachedName, String.toList_append, List.mem_append]
    exact not_or.2 ⟨h.2, hsuffix⟩

end Endpoint

end PrivateLink
