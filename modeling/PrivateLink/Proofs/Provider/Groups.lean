import PrivateLink.Proofs.Provider.InPlace
import PrivateLink.Proofs.Text.LetterCase

/-!
# Resource groups in an update

An update compares resource groups twice. The group in the state and the desired group are compared
by their lower-case forms, to see whether a new resource is needed; the group in the identifier and
the desired group are compared by the case of plain letters, to see whether the identifier means the
resource. A state that was read under the identifier has its group from there, so both comparisons
are then of the same two names. The second is the finer one. They agree on names without capitals
beyond the plain letters, but `É` and `é` are the same group for the first and not for the second,
and an update from one to the other is refused although it needs no new resource.

* `compared_groups`: how far the comparisons agree, and which updates the identifier refuses;
* `update_refused_for_accent`: that there are such updates.
-/

namespace PrivateLink.Provider

open Endpoint Network

variable {σ : Type} {address : Address} {identifier : String} {before : State}
  {desired : Resource} {spec : Spec}

/-- Resource groups are compared by their lower-case forms. -/
theorem comparable_group_eq_iff {current next : Attributes} {a b : String}
    (ha : current.lookup "resource_group_name" = some (.string a))
    (hb : next.lookup "resource_group_name" = some (.string b)) :
    (comparable current).lookup "resource_group_name" =
        (comparable next).lookup "resource_group_name" ↔
      Text.lowerText a = Text.lowerText b := by
  rw [lookup_comparable, lookup_comparable, ha, hb]
  simp [comparedForm, Value.mapText]

/-- The error that the identifier means another resource is not one for a fault of the endpoint. -/
theorem shown_ne_otherResource {α : Type} {result : Except Fault α} :
    shown address result ≠ .error ((otherResource identifier spec).forResource address) := by
  intro h
  obtain ⟨fault, -, -, hcause⟩ := validation_of_shown h rfl
  cases hcause

/-- An update that needs no new resource is refused because of its identifier just when the groups
differ in more than the case of plain letters. -/
theorem run_update_eq_otherResource_iff (provider : Provider σ) (state : σ) {group : String}
    (hspec : specOf desired = .ok spec)
    (hknown : ∃ found, Catalogue.find? address.type = some found)
    (hunchanged : Catalogue.endpointSchema.replacements (comparable before.attributes)
      (comparable desired.attributes) = [])
    (hid : parseId identifier = .ok (group, spec.name)) :
    ((Task.update address identifier before desired).run provider state).1 =
        .error ((otherResource identifier spec).forResource address) ↔
      Text.equalIgnoringCase group spec.resourceGroup = false := by
  constructor
  · intro hrefused
    by_contra hsame
    have hupdate : updateSpec address identifier before desired = .ok spec :=
      updateSpec_eq_ok_iff.2
        ⟨hspec, hknown, hunchanged, group, hid, (Bool.not_eq_false _).mp hsame⟩
    rw [Task.run_update hupdate] at hrefused
    exact shown_ne_otherResource (eq_error_of_map hrefused)
  · intro hdiffers
    obtain ⟨found, hfind⟩ := hknown
    have hupdate : updateSpec address identifier before desired =
        .error ((otherResource identifier spec).forResource address) := by
      unfold updateSpec
      simp [hspec, resourceType_of_find? hfind, bind, Except.bind, schema_of_find? hfind,
        hunchanged, hid, hdiffers]
    rw [Task.run_update_of_error hupdate]
    rfl

/-- **The two comparisons of resource groups**, for any two names of groups: if they differ at most
in the case of plain letters they are compared equal, and if they have no other capitals that is the
only way. Let an update be by a state that was found by an identifier in the one group, for a
resource in the other group that is accepted, has the name in the identifier and needs no new one.
Then the groups have the same lower case, the update is refused for the identifier just when they
differ in more than the case of plain letters, and so it is not when neither has other capitals. -/
theorem compared_groups (group wanted : String) :
    (∀ current next : Attributes,
      current.lookup "resource_group_name" = some (.string group) →
      next.lookup "resource_group_name" = some (.string wanted) →
        (Text.equalIgnoringCase group wanted = true →
          (comparable current).lookup "resource_group_name" =
            (comparable next).lookup "resource_group_name") ∧
        (Text.HasPlainCapitals group → Text.HasPlainCapitals wanted →
          ((comparable current).lookup "resource_group_name" =
              (comparable next).lookup "resource_group_name" ↔
            Text.equalIgnoringCase group wanted = true))) ∧
    ∀ {σ : Type} (provider : Provider σ) (address other : Address) (identifier : String)
      (start : σ) (before : State) (desired : Resource) (spec : Spec),
      ((Task.read address (some identifier)).run provider start).1 = .ok (some before) →
      before.found = true →
      specOf desired = .ok spec →
      spec.resourceGroup = wanted →
      (∃ found, Catalogue.find? other.type = some found) →
      parseId identifier = .ok (group, spec.name) →
      Catalogue.endpointSchema.replacements (comparable before.attributes)
        (comparable desired.attributes) = [] →
        Text.lowerText group = Text.lowerText wanted ∧
        ∀ state : σ,
          (((Task.update other identifier before desired).run provider state).1 =
              .error ((otherResource identifier spec).forResource other) ↔
            Text.equalIgnoringCase group wanted = false) ∧
          (Text.HasPlainCapitals group → Text.HasPlainCapitals wanted →
            ((Task.update other identifier before desired).run provider state).1 ≠
              .error ((otherResource identifier spec).forResource other)) := by
  constructor
  · intro current next hcurrent hnext
    rw [comparable_group_eq_iff hcurrent hnext]
    exact ⟨Text.lowerText_eq_of_equalIgnoringCase, Text.lowerText_eq_iff_of_plainCapitals⟩
  · rintro σ provider address other identifier start before desired spec hread hfound hspec rfl
      hknown hid hunchanged
    obtain ⟨_, -, hstory⟩ := told_read_found provider address identifier start []
    obtain ⟨readGroup, name, record, hreadId, -, hreports⟩ := hstory before hread hfound
    obtain rfl : group = readGroup :=
      (Prod.mk.inj (Except.ok.inj (hid.symm.trans hreadId))).1
    have hlower : Text.lowerText group = Text.lowerText spec.resourceGroup := by
      obtain ⟨-, -, hgroup⟩ := replacements_comparable_eq_nil_iff.1 hunchanged
      have hdesired := (holds_of_specOf hspec).resourceGroup
      exact Value.string.inj (hgroup _ _ hreports.resourceGroup hdesired)
    refine ⟨hlower, fun state => ?_⟩
    have hrefused := run_update_eq_otherResource_iff provider state hspec hknown hunchanged hid
    refine ⟨hrefused, fun hplain hplain' heq => ?_⟩
    have hsame := (Text.lowerText_eq_iff_of_plainCapitals hplain hplain').1 hlower
    exact Bool.false_ne_true ((hrefused.1 heq).symm.trans hsame)

/-- An endpoint in a group that is written in small letters with an accent, and in plain capitals in
the resource that is desired. -/
theorem update_not_refused_for_plain_capitals :
    let address : Address := { type := "private_link_endpoint", name := "main" }
    let identifier := "/subscriptions/s/resourceGroups/grüße-rg/privateEndpoints/e"
    let provider : Provider Script :=
      { client := Script.client, settings := { subscription := "s", importProtection := false } }
    let start : Script := { replies := [{ endpoint := some { location := some "West Europe" } }] }
    let before : State :=
      .present address identifier
        [("location", .string "westeurope"), ("name", .string "e"),
         ("network_interface_ids", .strings []), ("private_service_connection", .list []),
         ("resource_group_name", .string "grüße-rg"), ("subnet_id", .string "")]
    let desired : Resource :=
      { address
        attributes :=
          [("location", .string "westeurope"), ("name", .string "e"),
           ("resource_group_name", .string "GRüßE-RG"), ("subnet_id", .string "n")] }
    let spec : Spec :=
      { name := "e", location := "westeurope", resourceGroup := "GRüßE-RG", subnetId := "n" }
    ((Task.read address (some identifier)).run provider start).1 = .ok (some before) ∧
      before.found = true ∧ specOf desired = .ok spec ∧
      parseId identifier = .ok ("grüße-rg", spec.name) ∧
      Catalogue.endpointSchema.replacements (comparable before.attributes)
        (comparable desired.attributes) = [] ∧
      ∀ state : Script,
        ((Task.update address identifier before desired).run provider state).1 ≠
          .error ((otherResource identifier spec).forResource address) := by
  intro address identifier provider start before desired spec
  have hread : ((Task.read address (some identifier)).run provider start).1 =
      .ok (some before) := by
    decide +kernel
  have hspec : specOf desired = .ok spec := by decide +kernel
  have hid : parseId identifier = .ok ("grüße-rg", spec.name) := by decide +kernel
  have hunchanged : Catalogue.endpointSchema.replacements (comparable before.attributes)
      (comparable desired.attributes) = [] := by
    decide +kernel
  obtain ⟨-, hupdate⟩ := (compared_groups "grüße-rg" "GRüßE-RG").2 provider address address
    identifier start before desired spec hread rfl hspec rfl ⟨_, rfl⟩ hid hunchanged
  exact ⟨hread, rfl, hspec, hid, hunchanged,
    fun state => (hupdate state).2 (by decide +kernel) (by decide +kernel)⟩

/-- The names of the groups are both valid and have the same lower case, so no new resource is
needed, and yet the identifier under which the state was read does not mean the resource. -/
theorem update_refused_for_accent :
    let address : Address := { type := "private_link_endpoint", name := "main" }
    let identifier := "/subscriptions/s/resourceGroups/É/privateEndpoints/e"
    let provider : Provider Script :=
      { client := Script.client, settings := { subscription := "s", importProtection := false } }
    let start : Script := { replies := [{ endpoint := some { location := some "westeurope" } }] }
    let before : State :=
      .present address identifier
        [("location", .string "westeurope"), ("name", .string "e"),
         ("network_interface_ids", .strings []), ("private_service_connection", .list []),
         ("resource_group_name", .string "É"), ("subnet_id", .string "")]
    let desired : Resource :=
      { address
        attributes :=
          [("location", .string "westeurope"), ("name", .string "e"),
           ("resource_group_name", .string "é"), ("subnet_id", .string "n")] }
    let spec : Spec :=
      { name := "e", location := "westeurope", resourceGroup := "é", subnetId := "n" }
    Catalogue.checkGroupName "É" = .ok () ∧ Catalogue.checkGroupName "é" = .ok () ∧
      (comparable [("resource_group_name", .string "É")] =
        comparable [("resource_group_name", .string "é")]) ∧
      Text.equalIgnoringCase "É" "é" = false ∧
      ((Task.read address (some identifier)).run provider start).1 = .ok (some before) ∧
      specOf desired = .ok spec ∧ parseId identifier = .ok ("É", spec.name) ∧
      Catalogue.endpointSchema.replacements (comparable before.attributes)
        (comparable desired.attributes) = [] ∧
      ((Task.update address identifier before desired).run provider start).1 =
        .error ((otherResource identifier spec).forResource address) := by
  intro address identifier provider start before desired spec
  have hdiffers : Text.equalIgnoringCase "É" "é" = false := by decide +kernel
  have hspec : specOf desired = .ok spec := by decide +kernel
  have hid : parseId identifier = .ok ("É", spec.name) := by decide +kernel
  have hunchanged : Catalogue.endpointSchema.replacements (comparable before.attributes)
      (comparable desired.attributes) = [] := by
    decide +kernel
  have hknown : ∃ found, Catalogue.find? address.type = some found := ⟨_, rfl⟩
  have hrefused :=
    (run_update_eq_otherResource_iff provider start hspec hknown hunchanged hid).2 hdiffers
  refine ⟨?_, ?_, ?_, hdiffers, ?_, hspec, hid, hunchanged, hrefused⟩ <;> decide +kernel

end PrivateLink.Provider
