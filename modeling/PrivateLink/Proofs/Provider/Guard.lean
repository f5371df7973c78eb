import PrivateLink.Proofs.Provider.Admission
import PrivateLink.Proofs.Provider.Course

/-!
# What is checked before an endpoint is sent

A resource is created or changed only after the provider has looked at what it knows without the
service: types, attributes, and for a change also the state that is known and the identifier. Each
check is said here of the attributes themselves, and `Endeavours` tells a task that was refused by
these checks from one that went on to work on the endpoint.

* `replacements_comparable_eq_nil_iff`: when a change needs no new resource;
* `updateSpec_eq_ok_iff`: when a change can be made in place;
* `told_create`, `told_update`: the tasks are refused at once or go on to the endpoint.
-/

namespace PrivateLink

/-! ### Comparison of attributes -/

/-- The value with its text changed, if it is a text. -/
def Value.mapText (change : String → String) : Value → Value
  | .string text => .string (change text)
  | value => value

theorem Value.mapText_id (value : Value) : value.mapText id = value := by
  cases value <;> rfl

namespace Schema

variable {schema : Schema} {current desired : Attributes}

/-- No new resource is needed when the attributes that ask for one are the same where they are given
on both sides. -/
theorem replacements_eq_nil_iff :
    schema.replacements current desired = [] ↔
      ∀ declaration ∈ schema.declarations, declaration.forceNew = true →
        ∀ before after, current.lookup declaration.name = some before →
          desired.lookup declaration.name = some after → before = after := by
  rw [replacements, List.map_eq_nil_iff, List.filter_eq_nil_iff]
  refine forall₂_congr fun declaration _ => ?_
  rw [needsReplacement]
  cases declaration.forceNew with
  | false => simp
  | true =>
    cases current.lookup declaration.name <;> cases desired.lookup declaration.name <;> simp

end Schema

namespace Provider

open Endpoint Network

theorem lookup_changeText (name other : String) (change : String → String)
    (attributes : Attributes) :
    (changeText name change attributes).lookup other =
      if other = name then (attributes.lookup name).map (Value.mapText change)
      else attributes.lookup other := by
  unfold changeText
  split
  next text hlookup => rw [lookup_insertEntry, hlookup, Option.map_some, Value.mapText]
  next hother =>
    split
    next heq =>
      rw [heq]
      cases hlookup : attributes.lookup name with
      | none => rfl
      | some value =>
        cases value with
        | string text => exact absurd hlookup (hother text)
        | _ => rfl
    next => rfl

/-- The form in which the text of an attribute is compared. -/
def comparedForm (name : String) : String → String :=
  if name = "location" then Location.normalize
  else if name = "resource_group_name" then Text.lowerText
  else id

/-- Attributes are compared one by one, each in its form. -/
theorem lookup_comparable (attributes : Attributes) (name : String) :
    (comparable attributes).lookup name =
      (attributes.lookup name).map (Value.mapText (comparedForm name)) := by
  have hid : (attributes.lookup name).map (Value.mapText id) = attributes.lookup name := by
    cases attributes.lookup name <;> simp [Value.mapText_id]
  rw [comparable, lookup_changeText, lookup_changeText, lookup_changeText, comparedForm]
  by_cases hlocation : name = "location"
  · subst hlocation
    simp
  · by_cases hgroup : name = "resource_group_name"
    · subst hgroup
      simp
    · rw [if_neg hgroup, if_neg hlocation, if_neg hlocation, if_neg hgroup, hid]

/-- The attribute, if it is given on both sides, has the same value in the form in which it is
compared. -/
def Unchanged (name : String) (form : String → String) (before desired : Attributes) : Prop :=
  ∀ old new, before.lookup name = some old → desired.lookup name = some new →
    old.mapText form = new.mapText form

/-- **A change needs no new resource** when name, location and resource group stay as they are. -/
theorem replacements_comparable_eq_nil_iff {before desired : Attributes} :
    Catalogue.endpointSchema.replacements (comparable before) (comparable desired) = [] ↔
      Unchanged "name" id before desired ∧
        Unchanged "location" Location.normalize before desired ∧
        Unchanged "resource_group_name" Text.lowerText before desired := by
  have hforced : ∀ name, (∀ old new, (comparable before).lookup name = some old →
      (comparable desired).lookup name = some new → old = new) ↔
        Unchanged name (comparedForm name) before desired := by
    intro name
    simp only [lookup_comparable, Option.map_eq_some_iff, Unchanged]
    constructor
    · intro h old new hold hnew
      exact h _ _ ⟨old, hold, rfl⟩ ⟨new, hnew, rfl⟩
    · rintro h _ _ ⟨old, hold, rfl⟩ ⟨new, hnew, rfl⟩
      exact h old new hold hnew
  rw [Schema.replacements_eq_nil_iff]
  simp only [Catalogue.mem_endpointSchema_iff, hforced]
  -- The other declarations do not ask for a new resource.
  simp [Catalogue.endpointDeclarations, comparedForm]

/-! ### Accepted updates -/

/-- The endpoint of an accepted resource is what the attributes say. -/
theorem holds_of_specOf {resource : Resource} {spec : Spec} (h : specOf resource = .ok spec) :
    spec.Holds resource.attributes := by
  obtain ⟨hviolations, hread⟩ := accepted_of_specOf h
  obtain ⟨described, hdescribed, hholds, -⟩ :=
    Spec.exists_ofAttributes (Catalogue.violations_endpointSchema_eq_nil_iff.1 hviolations)
  obtain rfl : spec = described := Except.ok.inj (hread.symm.trans hdescribed)
  exact hholds

theorem exists_of_resourceType {address : Address} {found : Catalogue.ResourceType}
    (h : resourceType address = .ok found) : Catalogue.find? address.type = some found := by
  unfold resourceType at h
  split at h
  next hfind =>
    cases h
    exact hfind
  next => cases h

theorem resourceType_of_find? {address : Address} {found : Catalogue.ResourceType}
    (h : Catalogue.find? address.type = some found) : resourceType address = .ok found := by
  rw [resourceType, h]

/-- The identifier means the endpoint of that name in that resource group, whatever the case of
plain letters in the group. -/
def Means (identifier group name : String) : Prop :=
  ∃ written, parseId identifier = .ok (written, name) ∧ Text.equalIgnoringCase written group = true

/-- **A change can be made in place** when the resource is accepted, the type is known, no new
resource is needed and the identifier means the endpoint that is described. -/
theorem updateSpec_eq_ok_iff {address : Address} {identifier : String} {before : State}
    {desired : Resource} {spec : Spec} :
    updateSpec address identifier before desired = .ok spec ↔
      specOf desired = .ok spec ∧ (∃ found, Catalogue.find? address.type = some found) ∧
        Catalogue.endpointSchema.replacements (comparable before.attributes)
          (comparable desired.attributes) = [] ∧
        Means identifier spec.resourceGroup spec.name := by
  constructor
  · intro h
    unfold updateSpec at h
    obtain ⟨accepted, hspec, h⟩ := exists_of_bind_eq_ok h
    obtain ⟨found, htype, h⟩ := exists_of_bind_eq_ok h
    rw [schema_of_resourceType htype] at h
    dsimp only at h
    split at h
    next hreplacements =>
      split at h
      next => cases h
      next group name hid =>
        split at h
        next hsame =>
          cases h
          exact ⟨hspec, ⟨found, exists_of_resourceType htype⟩, hreplacements, group,
            hsame.2 ▸ hid, hsame.1⟩
        next => cases h
    next => cases h
  · rintro ⟨hspec, ⟨found, hfind⟩, hreplacements, group, hid, hsame⟩
    unfold updateSpec
    simp only [hspec, resourceType_of_find? hfind, bind, Except.bind, schema_of_find? hfind,
      hreplacements, hid, hsame, and_self, if_true]

/-! ### Refused or gone on -/

/-- How a task goes that asks for an endpoint: it is refused at once, or its calls are those of the
work on the endpoint that was asked for. -/
inductive Endeavours (asked : Except Error Spec) (mode : Mode) (address : Address) :
    List Answered → Answer → Prop
  | refused {error : Error} (hasked : asked = .error error) :
      Endeavours asked mode address [] (.error error)
  | applied {spec : Spec} {made : List Answered} {result : Except Fault Observed}
      (hasked : asked = .ok spec) (hwork : Applies spec mode made result) :
      Endeavours asked mode address made
        ((shown address result).map fun observed => some (stateOf address observed))

variable {σ : Type}

theorem told_create (provider : Provider σ) (resource : Resource) :
    Told ((Task.create resource).run provider) ((Task.create resource).run provider.recorded)
      (Endeavours (specOf resource) (.create provider.settings.importProtection)
        resource.address) := by
  cases hspec : specOf resource with
  | error error => exact told_pure (Task.run_create_of_error hspec) (.refused rfl)
  | ok spec =>
    rw [Task.run_create hspec, Task.run_create hspec]
    exact told_run (fun scope => told_apply provider.client scope spec _) fun _ _ => .applied rfl

theorem told_update (provider : Provider σ) (address : Address) (identifier : String)
    (before : State) (desired : Resource) :
    Told ((Task.update address identifier before desired).run provider)
      ((Task.update address identifier before desired).run provider.recorded)
      (Endeavours (updateSpec address identifier before desired) .update address) := by
  cases hspec : updateSpec address identifier before desired with
  | error error => exact told_pure (Task.run_update_of_error hspec) (.refused rfl)
  | ok spec =>
    rw [Task.run_update hspec, Task.run_update hspec]
    exact told_run (fun scope => told_apply provider.client scope spec .update)
      fun _ _ => .applied rfl

end Provider

end PrivateLink
