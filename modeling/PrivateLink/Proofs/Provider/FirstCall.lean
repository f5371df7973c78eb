import PrivateLink.Proofs.Endpoint.Lifecycle
import PrivateLink.Proofs.Endpoint.Parameters
import PrivateLink.Proofs.Provider.Guard

/-!
# When the service is called

Creating or changing a resource calls the service just when everything that can be checked without
it is in order. What has to be in order is said here of the resource, the prior state and the
identifier as they are given: `Resource.Creatable` and `Updatable`. In every other case the answer
is an error about a resource, and no call is made.

* `run_calls_iff`: when the first call is made, and what is answered otherwise.
-/

namespace PrivateLink

open Network

namespace Endpoint

/-! ### Settings that agree -/

/-- The block has a request message that is not empty just when its connection is manual. -/
def BlockAgrees (block : Attributes) : Prop :=
  block.lookup "is_manual_connection" = some (.bool true) ↔
    ∃ text, block.lookup "request_message" = some (.string text) ∧ text ≠ ""

/-- The request message of every connection agrees with its kind. -/
def MessagesAgree (attributes : Attributes) : Prop :=
  ∀ items block, attributes.lookup "private_service_connection" = some (.list items) →
    .map block ∈ items → BlockAgrees block

variable {attributes block : Attributes} {connection : Connection} {spec : Spec} {mode : Mode}
  {made : List Answered} {result : Except Fault Observed}

theorem Connection.Holds.agrees_iff (h : connection.Holds block) :
    BlockAgrees block ↔ connection.hasMessage = connection.isManual := by
  have hmessage : (∃ text, block.lookup "request_message" = some (.string text) ∧ text ≠ "") ↔
      connection.hasMessage = true := by
    rw [h.requestMessage, Connection.hasMessage]
    cases connection.requestMessage <;> simp
  rw [BlockAgrees, hmessage, h.isManual]
  cases connection.isManual <;> cases connection.hasMessage <;> simp

/-- What holds of the blocks one by one is what holds of the connections that they describe. -/
theorem forall_agrees_iff {blocks : List Attributes} {connections : List Connection}
    (h : List.Forall₂ Connection.Holds blocks connections) :
    (∀ block ∈ blocks, BlockAgrees block) ↔
      ∀ connection ∈ connections, connection.hasMessage = connection.isManual := by
  induction h with
  | nil => exact iff_of_true (List.forall_mem_nil _) (List.forall_mem_nil _)
  | cons hfirst _ ih => rw [List.forall_mem_cons, List.forall_mem_cons, hfirst.agrees_iff, ih]

/-- The settings of an endpoint agree when the blocks that describe its connections do. -/
theorem Spec.Holds.messagesAgree_iff (h : spec.Holds attributes) :
    MessagesAgree attributes ↔ spec.checkAgreement = .ok () := by
  obtain ⟨blocks, hblocks, hconnections⟩ := h.connections
  rw [Spec.checkAgreement_eq_ok_iff, ← forall_agrees_iff hconnections]
  constructor
  · intro hagree block hblock
    cases hlookup : attributes.lookup "private_service_connection" with
    | none =>
      rw [hlookup] at hblocks
      cases blocks with
      | nil => cases hblock
      | cons => cases hblocks
    | some value =>
      rw [hlookup] at hblocks
      exact hagree _ block (hlookup.trans (congrArg some hblocks)) (List.mem_map_of_mem hblock)
  · intro hagree items block hlookup hmem
    rw [hlookup] at hblocks
    obtain rfl : items = blocks.map .map := Value.list.inj hblocks
    obtain ⟨found, hfound, heq⟩ := List.mem_map.1 hmem
    exact Value.map.inj heq ▸ hagree found hfound

/-! ### Faults before any call -/

/-- An application calls the service just when the settings agree. -/
theorem Applies.made_ne_nil_iff (h : Applies spec mode made result) :
    made ≠ [] ↔ spec.checkAgreement = .ok () := by
  cases h with
  | disagreeing hagree => simp [hagree]
  | kept hagree hcheck =>
    refine iff_of_true ?_ hagree
    cases hcheck <;> exact List.cons_ne_nil _ _
  | taken hagree _ htake =>
    exact iff_of_true (fun hnil => htake.ne_nil (List.append_eq_nil_iff.1 hnil).2) hagree

/-- Settings that do not agree are what an application without a call comes to. -/
theorem Applies.invalidSettings (h : Applies spec mode made result)
    (hagree : spec.checkAgreement ≠ .ok ()) :
    ∃ connection reason, result = .error (.invalidSettings connection reason) := by
  obtain ⟨checked, taken, -, hcourse⟩ := h.course
  cases hcheck : spec.checkAgreement with
  | ok => exact absurd hcheck hagree
  | error fault =>
    obtain ⟨-, -, rfl, connection, reason, rfl⟩ := hcourse.disagreeing fault hcheck
    exact ⟨connection, reason, rfl⟩

end Endpoint

open Endpoint

/-- The resource can be asked for: its type is known, the schema lets its attributes through, and
their settings agree. -/
structure Resource.Creatable (resource : Resource) : Prop where
  accepted : ∃ found, Catalogue.find? resource.address.type = some found ∧
    found.schema.violations resource.attributes = []
  agree : MessagesAgree resource.attributes

namespace Provider

/-- The resource can take the place of the one at the address, of which the state and the identifier
are known: it can be asked for, what is known of name, location and resource group stays the same,
and the identifier is that of the endpoint which is described. -/
structure Updatable (address : Address) (identifier : String) (before : State)
    (desired : Resource) : Prop where
  creatable : desired.Creatable
  known : ∃ found, Catalogue.find? address.type = some found
  name : Unchanged "name" id before.attributes desired.attributes
  location : Unchanged "location" Location.normalize before.attributes desired.attributes
  resourceGroup :
    Unchanged "resource_group_name" Text.lowerText before.attributes desired.attributes
  identified : ∃ group name,
    desired.attributes.lookup "resource_group_name" = some (.string group) ∧
      desired.attributes.lookup "name" = some (.string name) ∧ Means identifier group name

/-- How a task is refused that asks for a resource in the place of the one at an address. Invalid
resources of an unknown type are refused for their type. -/
inductive Refuses (resource address : Address) : Error → Prop
  | unknownType {unknown : Address} (hconcerned : unknown = resource ∨ unknown = address)
      (hunknown : Catalogue.find? unknown.type = none) :
      Refuses resource address (unknownType unknown)
  | invalid {error : Error} {found : Catalogue.ResourceType}
      (hknown : Catalogue.find? resource.type = some found) (hkind : error.kind = .validation)
      (hconcerned : error.resource = some resource ∨ error.resource = some address) :
      Refuses resource address error

variable {σ : Type} {address : Address} {identifier : String} {before : State}
  {resource desired : Resource} {spec : Spec} {mode : Mode} {made : List Answered}
  {answer : Answer} {error : Error}

/-! ### Refused resources -/

theorem resourceType_eq_error_iff :
    resourceType address = .error error ↔
      Catalogue.find? address.type = none ∧ error = unknownType address := by
  rw [resourceType]
  cases Catalogue.find? address.type <;> simp [eq_comm]

/-- A resource is accepted when its type is known and the schema lets its attributes through. -/
theorem exists_specOf_iff :
    (∃ spec, specOf resource = .ok spec) ↔
      ∃ found, Catalogue.find? resource.address.type = some found ∧
        found.schema.violations resource.attributes = [] := by
  rw [← problem?_eq_none_iff, Resource.problem?]
  cases Catalogue.find? resource.address.type with
  | none => simp
  | some found =>
    cases hviolations : found.schema.violations resource.attributes <;> simp [hviolations]

/-- A resource can be asked for when it is accepted and the settings of its endpoint agree. -/
theorem creatable_iff :
    resource.Creatable ↔ ∃ spec, specOf resource = .ok spec ∧ spec.checkAgreement = .ok () := by
  constructor
  · rintro ⟨haccepted, hmessages⟩
    obtain ⟨spec, hspec⟩ := exists_specOf_iff.2 haccepted
    exact ⟨spec, hspec, (holds_of_specOf hspec).messagesAgree_iff.1 hmessages⟩
  · rintro ⟨spec, hspec, hsettings⟩
    exact ⟨exists_specOf_iff.1 ⟨spec, hspec⟩,
      (holds_of_specOf hspec).messagesAgree_iff.2 hsettings⟩

/-- A resource can take the place of another when the change can be made in place and the settings
agree. -/
theorem updatable_iff :
    Updatable address identifier before desired ↔
      ∃ spec, updateSpec address identifier before desired = .ok spec ∧
        spec.checkAgreement = .ok () := by
  constructor
  · rintro ⟨hcreatable, hknown, hname, hlocation, hgroup, group, name, hgiven, hnamed, hmeans⟩
    obtain ⟨spec, hspec, hagree⟩ := creatable_iff.1 hcreatable
    obtain ⟨hspecName, hspecGroup⟩ := lookup_of_ofAttributes (accepted_of_specOf hspec).2
    obtain rfl : spec.name = name := by simpa [hspecName] using hnamed
    obtain rfl : spec.resourceGroup = group := by simpa [hspecGroup] using hgiven
    have hunchanged := replacements_comparable_eq_nil_iff.2 ⟨hname, hlocation, hgroup⟩
    exact ⟨spec, updateSpec_eq_ok_iff.2 ⟨hspec, hknown, hunchanged, hmeans⟩, hagree⟩
  · rintro ⟨spec, hupdate, hagree⟩
    obtain ⟨hspec, hknown, hunchanged, hmeans⟩ := updateSpec_eq_ok_iff.1 hupdate
    obtain ⟨hname, hlocation, hgroup⟩ := replacements_comparable_eq_nil_iff.1 hunchanged
    obtain ⟨hnamed, hgiven⟩ := lookup_of_ofAttributes (accepted_of_specOf hspec).2
    exact ⟨creatable_iff.2 ⟨spec, hspec, hagree⟩, hknown, hname, hlocation, hgroup,
      spec.resourceGroup, spec.name, hgiven, hnamed, hmeans⟩

/-! ### Refusals -/

theorem refuses_of_specOf (h : specOf resource = .error error) (address : Address) :
    Refuses resource.address address error := by
  unfold specOf at h
  cases htype : resourceType resource.address with
  | error unknown =>
    rw [htype] at h
    obtain ⟨hunknown, rfl⟩ := resourceType_eq_error_iff.1 htype
    cases h
    exact .unknownType (.inl rfl) hunknown
  | ok found =>
    have hknown := exists_of_resourceType htype
    rw [htype] at h
    simp only [bind, Except.bind] at h
    split at h
    next hviolations =>
      -- The readers of attributes have nothing left to refuse.
      obtain ⟨spec, hspec⟩ := exists_specOf_iff.2 ⟨found, hknown, hviolations⟩
      rw [(accepted_of_specOf hspec).2] at h
      cases h
    next =>
      cases h
      exact .invalid hknown rfl (.inl rfl)

theorem refuses_of_updateSpec (h : updateSpec address identifier before desired = .error error) :
    Refuses desired.address address error := by
  unfold updateSpec at h
  cases hspec : specOf desired with
  | error refusal =>
    rw [hspec] at h
    cases h
    exact refuses_of_specOf hspec address
  | ok spec =>
    obtain ⟨found, hknown, -⟩ := exists_specOf_iff.1 ⟨spec, hspec⟩
    cases htype : resourceType address with
    | error unknown =>
      rw [hspec, htype] at h
      obtain ⟨hunknown, rfl⟩ := resourceType_eq_error_iff.1 htype
      cases h
      exact .unknownType (.inr rfl) hunknown
    | ok type =>
      rw [hspec, htype] at h
      simp only [bind, Except.bind] at h
      split at h
      next =>
        split at h
        next fault hid =>
          cases h
          obtain ⟨reason, rfl⟩ := invalidId_of_parseId hid
          exact .invalid hknown rfl (.inr rfl)
        next =>
          split at h
          next => cases h
          next =>
            cases h
            exact .invalid hknown rfl (.inr rfl)
      next =>
        cases h
        exact .invalid hknown rfl (.inr rfl)

/-! ### The first call -/

/-- The service is called just when it is fit to be; otherwise the answer is an error. -/
structure CallsWhen (Fit : Prop) (resource address : Address) (made : List Answered)
    (answer : Answer) : Prop where
  calls : made ≠ [] ↔ Fit
  refused : ¬ Fit → made = [] ∧ ∃ error, answer = .error error ∧ Refuses resource address error

theorem Endeavours.callsWhen {asked : Except Error Spec} {Fit : Prop} {resource : Address}
    (h : Endeavours asked mode address made answer)
    (hfit : Fit ↔ ∃ spec, asked = .ok spec ∧ spec.checkAgreement = .ok ())
    (hknown : ∀ spec, asked = .ok spec → ∃ found, Catalogue.find? resource.type = some found)
    (hrefuses : ∀ error, asked = .error error → Refuses resource address error) :
    CallsWhen Fit resource address made answer := by
  cases h with
  | refused hasked =>
    have hunfit : ¬ Fit := by
      rw [hfit]
      rintro ⟨spec, hspec, -⟩
      cases hasked.symm.trans hspec
    exact ⟨iff_of_false (fun h => h rfl) hunfit,
      fun _ => ⟨rfl, _, rfl, hrefuses _ hasked⟩⟩
  | @applied spec _ result hasked hwork =>
    have hagree : Fit ↔ spec.checkAgreement = .ok () := by
      rw [hfit]
      constructor
      · rintro ⟨other, hother, hagree⟩
        cases hasked.symm.trans hother
        exact hagree
      · exact fun hagree => ⟨spec, hasked, hagree⟩
    have hcalls : made ≠ [] ↔ Fit := hwork.made_ne_nil_iff.trans hagree.symm
    refine ⟨hcalls, fun hunfit => ⟨not_not.1 (mt hcalls.1 hunfit), ?_⟩⟩
    obtain ⟨connection, reason, rfl⟩ := hwork.invalidSettings (mt hagree.2 hunfit)
    obtain ⟨found, hfound⟩ := hknown spec hasked
    exact ⟨_, rfl, .invalid hfound rfl (.inr rfl)⟩

/-- **The first call**: over any client and from any state, creating a resource calls the service
just when the type is known, the schema lets the attributes through and their settings agree.
Changing a resource does so just when in addition the type at the address is known, name, location
and resource group, where they are given on both sides, stay the same in the form in which they are
compared, and the identifier can be read as that of the endpoint with the desired name, in the
desired resource group but for the case of plain letters. Otherwise no call is made, and the answer
is an error about one of the two addresses, of the kind "validation" unless a type is unknown. -/
theorem run_calls_iff (provider : Provider σ) (state : σ) (earlier : List Answered) :
    (∀ resource, ∃ made,
      (Task.create resource).run provider.recorded (state, earlier) =
        (((Task.create resource).run provider state).1,
          ((Task.create resource).run provider state).2, earlier ++ made) ∧
      CallsWhen resource.Creatable resource.address resource.address made
        ((Task.create resource).run provider state).1) ∧
    ∀ address identifier before desired, ∃ made,
      (Task.update address identifier before desired).run provider.recorded (state, earlier) =
        (((Task.update address identifier before desired).run provider state).1,
          ((Task.update address identifier before desired).run provider state).2,
          earlier ++ made) ∧
      CallsWhen (Updatable address identifier before desired) desired.address address made
        ((Task.update address identifier before desired).run provider state).1 := by
  have hknown : ∀ resource spec, specOf resource = .ok spec →
      ∃ found, Catalogue.find? resource.address.type = some found := by
    intro resource spec hspec
    obtain ⟨found, hfound, -⟩ := exists_specOf_iff.1 ⟨spec, hspec⟩
    exact ⟨found, hfound⟩
  constructor
  · intro resource
    obtain ⟨made, hmade, htold⟩ := told_create provider resource state earlier
    refine ⟨made, hmade, htold.callsWhen creatable_iff (hknown resource) ?_⟩
    exact fun _ herror => refuses_of_specOf herror resource.address
  · intro address identifier before desired
    obtain ⟨made, hmade, htold⟩ :=
      told_update provider address identifier before desired state earlier
    refine ⟨made, hmade, htold.callsWhen updatable_iff (fun spec hspec => ?_) ?_⟩
    · exact hknown desired spec (updateSpec_eq_ok_iff.1 hspec).1
    · exact fun _ herror => refuses_of_updateSpec herror

end Provider

end PrivateLink
