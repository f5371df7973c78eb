import PrivateLink.Proofs.Endpoint.Application
import PrivateLink.Proofs.Endpoint.Attributes
import PrivateLink.Proofs.Provider.Admission
import PrivateLink.Proofs.Provider.Refusal

/-!
# States that the provider hands out

Whatever the service answers, a state that a task hands out is that of the resource asked for.
Either the service does not know the resource, and then the state is empty, or it does, and then the
state holds the attributes of an endpoint and an identifier that can be read.

The identifier of a created endpoint is chosen by the service, and that of an endpoint that is read
by the caller. Both are read before the endpoint is fetched by what they say, so one that cannot be
read is never handed out. A later task that is given the identifier does not refuse it: an error
about a malformed identifier is then about another one, which the service gave.

* `told_sound`: every task hands out states of this form, over any client;
* `run_hands_out`: what is handed out, and what later tasks make of its identifier.
-/

namespace PrivateLink

open Network

namespace Endpoint

/-! ### Endpoints that were observed -/

/-- The attributes are those of an endpoint in the resource group. Tags may be left out. -/
structure ShowEndpoint (group : String) (attributes : Attributes) : Prop where
  name : ∃ text, attributes.lookup "name" = some (.string text)
  location : ∃ text, attributes.lookup "location" = some (.string text)
  resourceGroup : attributes.lookup "resource_group_name" = some (.string group)
  subnetId : ∃ text, attributes.lookup "subnet_id" = some (.string text)
  connections : ∃ blocks, attributes.lookup "private_service_connection" = some (.list blocks)
  interfaceIds : ∃ ids, attributes.lookup "network_interface_ids" = some (.strings ids)

theorem Observed.showEndpoint (observed : Observed) :
    ShowEndpoint observed.spec.resourceGroup observed.attributes := by
  obtain ⟨hname, hlocation, hgroup, hsubnet, hconnections, hids⟩ := observed.lookup_attributes
  exact ⟨⟨_, hname⟩, ⟨_, hlocation⟩, hgroup, ⟨_, hsubnet⟩, ⟨_, hconnections⟩, ⟨_, hids⟩⟩

/-- The identifier of the endpoint can be read, and it gives the resource group of the endpoint. -/
def Observed.IsIdentified (observed : Observed) : Prop :=
  ∃ name, parseId observed.id = .ok (observed.spec.resourceGroup, name)

variable {id : String} {spec : Spec} {mode : Mode} {made : List Answered} {observed : Observed}
  {text reason : String}

theorem Reads.isIdentified (h : Reads id made (.ok (some observed))) : observed.IsIdentified := by
  cases h with
  | detached hid | attached hid => exact ⟨_, hid⟩

theorem Applies.isIdentified (h : Applies spec mode made (.ok observed)) :
    observed.IsIdentified := by
  cases h with
  | taken _ _ htake =>
    cases htake with
    | done _ _ hread => exact hread.isIdentified

/-! ### Identifiers that cannot be read -/

/-- Reading the endpoint of an identifier that can be read finds none malformed but by the record of
the endpoint. -/
theorem Reads.endsGarbled {found : String × String} (hid : parseId id = .ok found)
    (h : Reads id made (.error (.invalidId text reason))) :
    EndsGarbled made (.invalidId text reason) := by
  refine (h.validation rfl).resolve_left fun hnone => ?_
  rw [hid] at hnone
  cases hnone.2

theorem Applies.endsGarbled (h : Applies spec mode made (.error (.invalidId text reason))) :
    EndsGarbled made (.invalidId text reason) := by
  cases h with
  | disagreeing hagree =>
    obtain ⟨_, _, hfault⟩ := Spec.invalidSettings_of_checkAgreement hagree
    cases hfault
  | kept _ hcheck => cases hcheck
  | taken _ _ htake => exact .append _ (htake.validation rfl)

theorem Removes.not_invalidId {found : String × String} (hid : parseId id = .ok found) :
    ¬ Removes id made (.error (.invalidId text reason)) := by
  intro h
  cases h with
  | invalid hinvalid =>
    rw [hid] at hinvalid
    cases hinvalid

end Endpoint

namespace State

/-- The state is that of a resource which the service does not know, with nothing else in it, or it
has the attributes of an endpoint and an identifier which gives the resource group of them. -/
def IsWellFormed (state : State) : Prop :=
  (state.found = false ∧ state.identifier = none ∧ state.attributes = []) ∨
    (state.found = true ∧ ∃ identifier group name, state.identifier = some identifier ∧
      Endpoint.parseId identifier = .ok (group, name) ∧
        Endpoint.ShowEndpoint group state.attributes)

theorem isWellFormed_absent (address : Address) : (absent address).IsWellFormed :=
  .inl ⟨rfl, rfl, rfl⟩

theorem isWellFormed_stateOf {observed : Endpoint.Observed} (h : observed.IsIdentified)
    (address : Address) : (Provider.stateOf address observed).IsWellFormed := by
  obtain ⟨name, hid⟩ := h
  refine .inr ⟨rfl, observed.id, observed.spec.resourceGroup, name, rfl, hid, ?_⟩
  simp only [Provider.stateOf, present]
  exact observed.showEndpoint

/-- The identifier of a state, if it has one, can be read. -/
theorem IsWellFormed.exists_parseId {state : State} (h : state.IsWellFormed) {identifier : String}
    (hidentifier : state.identifier = some identifier) :
    ∃ found, Endpoint.parseId identifier = .ok found := by
  rcases h with ⟨-, hnone, -⟩ | ⟨-, _, group, name, hsome, hid, -⟩
  · rw [hidentifier] at hnone
    cases hnone
  · rw [hidentifier] at hsome
    cases hsome
    exact ⟨_, hid⟩

end State

namespace Provider

/-! ### Errors before any call -/

theorem cause_of_resourceType {address : Address} {error : Error}
    (h : resourceType address = .error error) : error.cause = none := by
  unfold resourceType at h
  split at h
  next => cases h
  next =>
    cases h
    rfl

/-- A resource is refused because of its type or of its schema, since nothing that the schema lets
through is refused. -/
theorem cause_of_specOf {resource : Resource} {error : Error}
    (h : specOf resource = .error error) : error.cause = none := by
  unfold specOf at h
  cases htype : resourceType resource.address with
  | error fault =>
    rw [htype] at h
    cases h
    exact cause_of_resourceType htype
  | ok found =>
    rw [htype] at h
    simp only [bind, Except.bind, schema_of_resourceType htype] at h
    split at h
    next hviolations =>
      obtain ⟨spec, hspec, -⟩ := Endpoint.Spec.exists_ofAttributes
        (Catalogue.violations_endpointSchema_eq_nil_iff.1 hviolations)
      rw [hspec] at h
      cases h
    next =>
      cases h
      rfl

/-- An update under an identifier that can be read is never refused by a fault of the endpoint. -/
theorem cause_of_updateSpec {address : Address} {identifier : String} {before : State}
    {desired : Resource} {error : Error} {found : String × String}
    (hid : Endpoint.parseId identifier = .ok found)
    (h : updateSpec address identifier before desired = .error error) : error.cause = none := by
  unfold updateSpec at h
  cases hspec : specOf desired with
  | error fault =>
    rw [hspec] at h
    cases h
    exact cause_of_specOf hspec
  | ok spec =>
    cases htype : resourceType address with
    | error fault =>
      rw [hspec, htype] at h
      cases h
      exact cause_of_resourceType htype
    | ok type =>
      rw [hspec, htype] at h
      simp only [bind, Except.bind, hid] at h
      split at h
      next =>
        split at h
        next => cases h
        next =>
          cases h
          rfl
      next =>
        cases h
        rfl

theorem eq_of_cause_ofFault {fault cause : Endpoint.Fault}
    (h : (Error.ofFault fault).cause = some cause) : fault = cause := by
  cases fault <;> cases h <;> rfl

/-! ### What a task hands out -/

namespace Task

/-- The address of the resource that the task is about. -/
def address : Task → Address
  | .read address _ | .update address _ _ _ | .delete address _ | .importExisting address _ =>
    address
  | .create resource => resource.address

/-- The identifier that the task is given. -/
def identifier? : Task → Option String
  | .read _ identifier => identifier
  | .create _ => none
  | .update _ identifier _ _ | .delete _ identifier | .importExisting _ identifier =>
    some identifier

/-- If the task is given an identifier, it can be read. -/
def NamesEndpoint (task : Task) : Prop :=
  ∀ identifier, task.identifier? = some identifier →
    ∃ found, Endpoint.parseId identifier = .ok found

/-- The state is one that the task may hand out. Only reading hands out the state of a resource that
the service does not know. -/
structure HandsOut (task : Task) (state : State) : Prop where
  address : state.address = task.address
  wellFormed : state.IsWellFormed
  absent : state.found = false → ∃ address identifier, task = .read address identifier

end Task

/-- If the answer is an error about a malformed identifier, it is one that the service gave in the
record which was fetched last. -/
def Blames (made : List Answered) (answer : Answer) : Prop :=
  ∀ error text reason, answer = .error error → error.cause = some (.invalidId text reason) →
    Endpoint.EndsGarbled made (.invalidId text reason)

/-- What is handed out is well formed, and identifiers that can be read are not refused. -/
structure Sound (task : Task) (made : List Answered) (answer : Answer) : Prop where
  handed : ∀ state, answer = .ok (some state) → task.HandsOut state
  blames : task.NamesEndpoint → Blames made answer

variable {σ : Type} {task : Task} {address : Address} {made : List Answered}

theorem blames_ok (state : Option State) : Blames made (.ok state) := by
  rintro _ _ _ ⟨⟩

theorem sound_of_cause {error : Error} (hcause : task.NamesEndpoint → error.cause = none) :
    Sound task made (.error error) where
  handed := nofun
  blames hnames := by
    rintro _ text reason ⟨⟩ hinvalid
    rw [hcause hnames] at hinvalid
    cases hinvalid

theorem sound_of_fault {fault : Endpoint.Fault}
    (hgarbled : ∀ text reason, task.NamesEndpoint → fault = .invalidId text reason →
      Endpoint.EndsGarbled made (.invalidId text reason)) :
    Sound task made (.error ((Error.ofFault fault).forResource address)) where
  handed := nofun
  blames hnames := by
    rintro _ text reason ⟨⟩ hinvalid
    exact hgarbled text reason hnames (eq_of_cause_ofFault hinvalid)

theorem sound_of_state {state : State} (h : task.HandsOut state) :
    Sound task made (.ok (some state)) where
  handed := by
    rintro _ ⟨⟩
    exact h
  blames _ := blames_ok _

theorem handsOut_absent {address : Address} (identifier : Option String) :
    (Task.read address identifier).HandsOut (.absent address) :=
  ⟨rfl, State.isWellFormed_absent address, fun _ => ⟨address, identifier, rfl⟩⟩

theorem handsOut_stateOf {observed : Endpoint.Observed} (h : observed.IsIdentified) :
    task.HandsOut (stateOf task.address observed) :=
  ⟨rfl, State.isWellFormed_stateOf h _, nofun⟩

theorem sound_of_reads_error {identifier : String} {fault : Endpoint.Fault}
    (hidentifier : task.identifier? = some identifier)
    (hwork : Endpoint.Reads identifier made (.error fault)) :
    Sound task made (.error ((Error.ofFault fault).forResource address)) := by
  refine sound_of_fault fun text reason hnames hfault => ?_
  obtain ⟨found, hid⟩ := hnames identifier hidentifier
  exact (hfault ▸ hwork).endsGarbled hid

theorem sound_of_removes {identifier : String} {result : Except Endpoint.Fault Unit}
    (hidentifier : task.identifier? = some identifier)
    (hwork : Endpoint.Removes identifier made result) :
    Sound task made ((shown address result).map fun () => none) := by
  rcases result with fault | _
  · refine sound_of_fault fun text reason hnames hfault => ?_
    obtain ⟨found, hid⟩ := hnames identifier hidentifier
    exact absurd (hfault ▸ hwork) (Endpoint.Removes.not_invalidId hid)
  · exact ⟨nofun, fun _ => blames_ok _⟩

theorem sound_of_applies (task : Task) {spec : Endpoint.Spec} {mode : Endpoint.Mode}
    {result : Except Endpoint.Fault Endpoint.Observed}
    (hwork : Endpoint.Applies spec mode made result) :
    Sound task made
      ((shown task.address result).map fun observed => some (stateOf task.address observed)) := by
  rcases result with fault | observed
  · exact sound_of_fault fun text reason _ hfault => (hfault ▸ hwork).endsGarbled
  · exact sound_of_state (handsOut_stateOf hwork.isIdentified)

/-- **Every task hands out states that are well formed**, and refuses no identifier that can be
read. -/
theorem told_sound (provider : Provider σ) (task : Task) :
    Told (task.run provider) (task.run provider.recorded) (Sound task) := by
  cases task with
  | read address identifier =>
    cases htype : resourceType address with
    | error error =>
      exact told_pure (Task.run_read_of_error htype)
        (sound_of_cause fun _ => cause_of_resourceType htype)
    | ok found =>
      cases identifier with
      | none => exact told_pure (Task.run_read_none htype) (sound_of_state (handsOut_absent none))
      | some identifier =>
        rw [Task.run_read htype, Task.run_read htype]
        refine told_run (fun scope => Endpoint.told_read provider.client scope identifier)
          fun made result hwork => ?_
        rcases result with fault | _ | observed
        · exact sound_of_reads_error rfl hwork
        · exact sound_of_state (handsOut_absent _)
        · exact sound_of_state (handsOut_stateOf hwork.isIdentified)
  | create resource =>
    cases hspec : specOf resource with
    | error error =>
      exact told_pure (Task.run_create_of_error hspec)
        (sound_of_cause fun _ => cause_of_specOf hspec)
    | ok spec =>
      rw [Task.run_create hspec, Task.run_create hspec]
      exact told_run (fun scope => Endpoint.told_apply provider.client scope spec _)
        fun _ _ => sound_of_applies (.create resource)
  | update address identifier before desired =>
    cases hspec : updateSpec address identifier before desired with
    | error error =>
      refine told_pure (Task.run_update_of_error hspec) (sound_of_cause fun hnames => ?_)
      obtain ⟨found, hid⟩ := hnames identifier rfl
      exact cause_of_updateSpec hid hspec
    | ok spec =>
      rw [Task.run_update hspec, Task.run_update hspec]
      exact told_run (fun scope => Endpoint.told_apply provider.client scope spec .update)
        fun _ _ => sound_of_applies (.update address identifier before desired)
  | delete address identifier =>
    cases htype : resourceType address with
    | error error =>
      exact told_pure (Task.run_delete_of_error htype)
        (sound_of_cause fun _ => cause_of_resourceType htype)
    | ok found =>
      rw [Task.run_delete htype, Task.run_delete htype]
      exact told_run (fun scope => Endpoint.told_remove provider.client scope identifier)
        fun _ _ => sound_of_removes rfl
  | importExisting address identifier =>
    cases htype : resourceType address with
    | error error =>
      exact told_pure (Task.run_importExisting_of_error htype)
        (sound_of_cause fun _ => cause_of_resourceType htype)
    | ok found =>
      rw [Task.run_importExisting htype, Task.run_importExisting htype]
      refine told_run (fun scope => Endpoint.told_read provider.client scope identifier)
        fun made result hwork => ?_
      rcases result with fault | _ | observed
      · exact sound_of_reads_error rfl hwork
      · exact sound_of_cause fun _ => rfl
      · exact sound_of_state (handsOut_stateOf hwork.isIdentified)

/-- **States that are handed out**: over any client and from any state, a state that a task hands
out is that of the resource the task is about. Unless the task is to read a resource which the
service does not know, the state has the name, the location, the subnet, the connections and the
interfaces of an endpoint, and an identifier which gives its resource group. No task that is given
this identifier later, over whatever client and from whatever state, refuses it: if there is an
error about a malformed identifier, then about one in the record that the service gave last. -/
theorem run_hands_out (provider : Provider σ) (task : Task) (state : σ) {found : State}
    (h : (task.run provider state).1 = .ok (some found)) :
    found.address = task.address ∧ found.IsWellFormed ∧
      (found.found = false → ∃ address identifier, task = .read address identifier) ∧
      ∀ identifier, found.identifier = some identifier →
        ∀ {τ : Type} (later : Provider τ) (next : Task), next.identifier? = some identifier →
          ∀ (after : τ) (earlier : List Answered), ∃ made,
            next.run later.recorded (after, earlier) =
              ((next.run later after).1, (next.run later after).2, earlier ++ made) ∧
            Blames made (next.run later after).1 := by
  obtain ⟨_, -, hsound⟩ := told_sound provider task state []
  obtain ⟨haddress, hwellFormed, habsent⟩ := hsound.handed found h
  refine ⟨haddress, hwellFormed, habsent, ?_⟩
  intro identifier hidentifier τ later next hnext after earlier
  obtain ⟨made, hmade, hlater⟩ := told_sound later next after earlier
  refine ⟨made, hmade, hlater.blames ?_⟩
  intro given hgiven
  cases hnext.symm.trans hgiven
  exact hwellFormed.exists_parseId hidentifier

/-- The state of an endpoint that was created, and the deletion of it by the identifier there. -/
theorem create_hands_out :
    let address : Address := { type := "private_link_endpoint", name := "main" }
    let resource : Resource :=
      { address
        attributes :=
          [("location", .string "West Europe"), ("name", .string "e"),
           ("resource_group_name", .string "g"), ("subnet_id", .string "n")] }
    let provider : Provider Script :=
      { client := Script.client, settings := { subscription := "s", importProtection := false } }
    let identifier := "/subscriptions/s/resourceGroups/G/privateEndpoints/e"
    let record : Wire.Endpoint := { id := some identifier, name := some "e" }
    let script : Script :=
      { replies :=
          [{ operation := some .completed }, { done := some () }, { endpoint := some record },
           { endpoint := some record }] }
    let found : State :=
      .present address identifier
        [("location", .string ""), ("name", .string "e"), ("network_interface_ids", .strings []),
         ("private_service_connection", .list []), ("resource_group_name", .string "G"),
         ("subnet_id", .string "")]
    ((Task.create resource).run provider script).1 = .ok (some found) ∧
      (Task.delete address identifier).identifier? = found.identifier ∧
      found.address = resource.address ∧ found.IsWellFormed ∧
      ∀ (after : Script) (earlier : List Answered), ∃ made,
        (Task.delete address identifier).run provider.recorded (after, earlier) =
          (((Task.delete address identifier).run provider after).1,
            ((Task.delete address identifier).run provider after).2, earlier ++ made) ∧
        Blames made ((Task.delete address identifier).run provider after).1 := by
  intro address resource provider identifier record script found
  have hrun : ((Task.create resource).run provider script).1 = .ok (some found) := by
    decide +kernel
  obtain ⟨haddress, hwellFormed, -, hlater⟩ :=
    run_hands_out provider (.create resource) script hrun
  exact ⟨hrun, rfl, haddress, hwellFormed,
    hlater identifier rfl provider (.delete address identifier) rfl⟩

end Provider

end PrivateLink
