import PrivateLink.Proofs.Attribute.Replacement
import PrivateLink.Proofs.Catalogue.Language
import PrivateLink.Proofs.Provider.InPlace
import PrivateLink.Proofs.Provider.Sent

/-!
# Locations that come back

A location is sent in its normal form. The service may answer with any spelling of it, and the
state shows the normal form of that. When the state is compared with the resource that was asked
for, both are normalized once more. The normal form is its own normal form, so what is compared on
either side is the location that was sent, and an update finds no change in it.

* `told_reports`: every state that a task finds reports a record that it fetched;
* `location_returns`: what normal forms keep, and how a location that was sent compares with the
  one that comes back.
-/

namespace PrivateLink

open Network

theorem Location.hasContent_normalize_iff {location : String} :
    Text.HasContent (normalize location) ↔ Text.HasContent location := by
  rw [← Text.isBlankText_eq_false_iff, ← Text.isBlankText_eq_false_iff, isBlankText_normalize]

/-- A spelling of a location that the service reports is shown in its normal form. -/
theorem State.Reports.lookup_location {state : State} {group name location : String}
    {record : Wire.Endpoint} (h : state.Reports group name record)
    (hspelled : record.location.map Location.normalize = some location) :
    state.attributes.lookup "location" = some (.string location) := by
  rw [h.location, hspelled, Option.getD_some]

namespace Endpoint

variable {spec : Spec} {mode : Mode} {id : String} {made : List Answered} {observed : Observed}

/-- The calls fetched the record of which the endpoint was observed. -/
def FetchedIn (made : List Answered) (observed : Observed) : Prop :=
  ∃ group name record id address, .getEndpoint group name (.ok record) ∈ made ∧
    observed = observe id group name record address

theorem Reads.fetchedIn (h : Reads id made (.ok (some observed))) : FetchedIn made observed := by
  obtain ⟨group, name, record, address, -, hfirst, hobserved⟩ := h.exists_record
  exact ⟨group, name, record, id, address, List.mem_of_head? hfirst, hobserved⟩

theorem FetchedIn.append (h : FetchedIn made observed) (earlier : List Answered) :
    FetchedIn (earlier ++ made) observed := by
  obtain ⟨group, name, record, id, address, hmem, hobserved⟩ := h
  exact ⟨group, name, record, id, address, List.mem_append_right earlier hmem, hobserved⟩

/-- An application ends with reading the endpoint. -/
theorem Applies.fetchedIn (h : Applies spec mode made (.ok observed)) :
    FetchedIn made observed := by
  cases h with
  | taken _ _ htake =>
    cases htake with
    | done _ _ hread => exact ((hread.fetchedIn.append _).append _).append _

end Endpoint

namespace Provider

open Endpoint

variable {σ : Type} {address : Address} {made : List Answered} {answer : Answer}

/-! ### States and records -/

/-- If the answer is a state that was found, it reports a record that one of the calls fetched. -/
def Reported (made : List Answered) (answer : Answer) : Prop :=
  ∀ state, answer = .ok (some state) → state.found = true →
    ∃ group name record, .getEndpoint group name (.ok record) ∈ made ∧
      state.Reports group name record

theorem reported_of_fetchedIn {observed : Observed} (h : FetchedIn made observed) :
    Reported made (.ok (some (stateOf address observed))) := by
  rintro _ ⟨⟩ -
  obtain ⟨group, name, record, id, privateAddress, hmem, rfl⟩ := h
  exact ⟨group, name, record, hmem, State.reports_stateOf ..⟩

theorem reported_absent : Reported made (.ok (some (.absent address))) := by
  rintro _ ⟨⟩ hfound
  cases hfound

theorem Endeavours.reported {asked : Except Error Spec} {mode : Mode}
    (h : Endeavours asked mode address made answer) : Reported made answer := by
  cases h with
  | refused => exact nofun
  | @applied _ _ result _ hwork =>
    rcases result with fault | observed
    · exact nofun
    · exact reported_of_fetchedIn hwork.fetchedIn

/-- **Every state that a task finds** reports a record that the task fetched, over any client. -/
theorem told_reports (provider : Provider σ) (task : Task) :
    Told (task.run provider) (task.run provider.recorded) Reported := by
  -- A task that `Performs` calls refused may have any answer, so each way to be refused is looked
  -- at here: none of them finds a state.
  cases task with
  | read address identifier =>
    cases htype : resourceType address with
    | error error => exact told_pure (Task.run_read_of_error htype) nofun
    | ok found =>
      cases identifier with
      | none => exact told_pure (Task.run_read_none htype) reported_absent
      | some identifier =>
        rw [Task.run_read htype, Task.run_read htype]
        refine told_run (fun scope => told_read provider.client scope identifier)
          fun made result hwork => ?_
        rcases result with fault | _ | observed
        · exact nofun
        · exact reported_absent
        · exact reported_of_fetchedIn hwork.fetchedIn
  | create resource =>
    exact (told_create provider resource).mono fun _ _ => Endeavours.reported
  | update address identifier before desired =>
    exact (told_update provider address identifier before desired).mono
      fun _ _ => Endeavours.reported
  | delete address identifier =>
    cases htype : resourceType address with
    | error error => exact told_pure (Task.run_delete_of_error htype) nofun
    | ok found =>
      rw [Task.run_delete htype, Task.run_delete htype]
      refine told_run (fun scope => told_remove provider.client scope identifier)
        fun made result _ => ?_
      rcases result with fault | _ <;> exact nofun
  | importExisting address identifier =>
    cases htype : resourceType address with
    | error error => exact told_pure (Task.run_importExisting_of_error htype) nofun
    | ok found =>
      rw [Task.run_importExisting htype, Task.run_importExisting htype]
      refine told_run (fun scope => told_read provider.client scope identifier)
        fun made result hwork => ?_
      rcases result with fault | _ | observed
      · exact nofun
      · exact nofun
      · exact reported_of_fetchedIn hwork.fetchedIn

/-! ### Locations -/

variable {attributes current desired : Attributes} {location : String}

/-- Locations are compared by their normal forms. -/
theorem lookup_comparable_location {text : String}
    (h : attributes.lookup "location" = some (.string text)) :
    (comparable attributes).lookup "location" = some (.string (Location.normalize text)) := by
  rw [lookup_comparable, h]
  rfl

/-- A location that is compared to itself needs no new resource. -/
theorem location_notMem_replacements
    (hcurrent : (comparable current).lookup "location" = some (.string location))
    (hdesired : (comparable desired).lookup "location" = some (.string location)) :
    "location" ∉
      Catalogue.endpointSchema.replacements (comparable current) (comparable desired) := by
  intro hmem
  obtain ⟨_, -, -, -, before, after, hbefore, hafter, hne⟩ := Schema.mem_replacements_iff.1 hmem
  rw [hcurrent] at hbefore
  rw [hdesired] at hafter
  exact hne (Option.some.inj (hbefore.symm.trans hafter))

/-- **Locations come back.** The normal form of a location is its own normal form, it is put
together part by part, it is in lower case without a plain space, and it has content just when the
location has. So let a task over any client send a record. The record has the normal form of the
location that the task asks for, and this has content. If another task, over whatever client, then
finds a state, and the service reports any spelling of that location to it, the location in the
state has the normal form that was sent. It is also what is compared, both of the state and of the
resource that was asked for, so no change of the location is found. -/
theorem location_returns :
    (∀ a b : String,
      Location.normalize (Location.normalize a) = Location.normalize a ∧
        Location.normalize (a ++ b) = Location.normalize a ++ Location.normalize b ∧
        (∀ c ∈ (Location.normalize a).toList, c ≠ ' ' ∧ Text.lowerChar c = [c]) ∧
        (Text.HasContent (Location.normalize a) ↔ Text.HasContent a)) ∧
    ∀ {σ : Type} (provider : Provider σ) (task : Task) (start : σ) (group name : String)
      (parameters : Wire.Endpoint) (sent : Except Failure Operation),
      .beginPut group name parameters sent ∈ task.calls provider start →
      ∃ desired location, task.desired? = some desired ∧
        desired.attributes.lookup "location" = some (.string location) ∧
        parameters.location = some (Location.normalize location) ∧
        Text.HasContent (Location.normalize location) ∧
        ∀ {τ : Type} (other : Provider τ) (later : Task) (after : τ) (state : State),
          (later.run other after).1 = .ok (some state) → state.found = true →
          (∀ group name record, .getEndpoint group name (.ok record) ∈ later.calls other after →
            record.location.map Location.normalize = parameters.location) →
          (∃ shown, state.attributes.lookup "location" = some (.string shown) ∧
            some (Location.normalize shown) = parameters.location) ∧
          (∀ attributes ∈ [state.attributes, desired.attributes],
            (comparable attributes).lookup "location" = parameters.location.map .string) ∧
          "location" ∉ Catalogue.endpointSchema.replacements (comparable state.attributes)
            (comparable desired.attributes) := by
  refine ⟨fun a b => ⟨Location.normalize_normalize a, Location.normalize_append a b, ?_,
    Location.hasContent_normalize_iff⟩, ?_⟩
  · intro c hc
    refine ⟨?_, Location.lowerChar_of_mem_normalize hc⟩
    rintro rfl
    exact Location.space_notMem_normalize a hc
  · intro σ provider task start group name parameters sent hmem
    obtain ⟨desired, spec, hdesired, hspec, -, rfl⟩ :=
      (Task.story (told_performs provider task) start).exists_sent hmem
    have hgiven := (holds_of_specOf hspec).location
    have hcontent : Text.HasContent spec.location :=
      Text.isBlankText_eq_false_iff.1 (isDesired_of_specOf hspec).location
    refine ⟨desired, spec.location, hdesired, hgiven, rfl,
      Location.hasContent_normalize_iff.2 hcontent, ?_⟩
    intro τ other later after state hstate hfound hspelled
    obtain ⟨_, _, record, hfetched, hreports⟩ :=
      Task.story (told_reports other later) after state hstate hfound
    have hshown := hreports.lookup_location (hspelled _ _ record hfetched)
    have hnormal := Location.normalize_normalize spec.location
    -- On either side the comparison normalizes once more, which makes no difference to the state.
    have hasked := lookup_comparable_location hgiven
    have hback := lookup_comparable_location hshown
    rw [hnormal] at hback
    refine ⟨⟨_, hshown, congrArg some hnormal⟩, ?_, location_notMem_replacements hback hasked⟩
    exact List.forall_mem_cons.2 ⟨hback, List.forall_mem_singleton.2 hasked⟩

/-- A location with a dotted capital, which is sent as two characters, comes back in capitals. -/
theorem location_returns_in_capitals :
    let address : Address := { type := "private_link_endpoint", name := "main" }
    let identifier := "/subscriptions/s/resourceGroups/g/privateEndpoints/e"
    let resource : Resource :=
      { address
        attributes :=
          [("location", .string "Yeni \u0130l"), ("name", .string "e"),
           ("resource_group_name", .string "g"), ("subnet_id", .string "n")] }
    let provider : Provider Script :=
      { client := Script.client, settings := { subscription := "s", importProtection := false } }
    let parameters : Wire.Endpoint :=
      { location := some "yenii\u0307l"
        tags := some {}
        properties := some
          { subnet := some { id := some "n" }
            automaticConnections := some []
            manualConnections := some [] } }
    let record : Wire.Endpoint := { location := some "YENI \u0130L" }
    let state : State :=
      .present address identifier
        [("location", .string "yenii\u0307l"), ("name", .string "e"),
         ("network_interface_ids", .strings []), ("private_service_connection", .list []),
         ("resource_group_name", .string "g"), ("subnet_id", .string "")]
    let start : Script := { replies := [{ operation := some .completed }] }
    let after : Script := { replies := [{ endpoint := some record }] }
    let read : Task := .read address (some identifier)
    .beginPut "g" "e" parameters (.ok .completed) ∈ (Task.create resource).calls provider start ∧
      (read.run provider after).1 = .ok (some state) ∧ state.found = true ∧
      read.calls provider after = [.getEndpoint "g" "e" (.ok record)] ∧
      record.location.map Location.normalize = parameters.location ∧
      ∀ attributes ∈ [state.attributes, resource.attributes],
        (comparable attributes).lookup "location" = parameters.location.map .string := by
  intro address identifier resource provider parameters record state start after read
  have hsent : .beginPut "g" "e" parameters (.ok .completed) ∈
      (Task.create resource).calls provider start := by
    decide +kernel
  have hread : (read.run provider after).1 = .ok (some state) := by decide +kernel
  have hcalls : read.calls provider after = [.getEndpoint "g" "e" (.ok record)] := by
    decide +kernel
  have hspelled : record.location.map Location.normalize = parameters.location := by
    decide +kernel
  have hreported : ∀ group name fetched,
      .getEndpoint group name (.ok fetched) ∈ read.calls provider after →
        fetched.location.map Location.normalize = parameters.location := by
    intro group name fetched hmem
    rw [hcalls, List.mem_singleton] at hmem
    cases hmem
    exact hspelled
  obtain ⟨desired, location, hdesired, -, -, -, hlater⟩ :=
    location_returns.2 provider (.create resource) start _ _ _ _ hsent
  cases hdesired
  obtain ⟨-, hcompared, -⟩ := hlater provider read after state hread rfl hreported
  exact ⟨hsent, hread, rfl, hcalls, hspelled, hcompared⟩

end Provider

end PrivateLink
