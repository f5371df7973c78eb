import PrivateLink.Proofs.Provider.Course
import PrivateLink.Script

/-!
# Errors of the kind "validation"

What was asked for is checked before the service is asked for anything, so an error of the kind
"validation" comes without a call, but for one case: the service itself names an endpoint or an
interface by an identifier that cannot be read. That is found out when the endpoint is read, which
may be after it was created or changed.

* `run_validation`: when an error of this kind comes after calls;
* `create_validation_after_put`: that it does come after the endpoint was sent.
-/

namespace PrivateLink.Endpoint

open Network

/-- The record names the endpoint or its first interface by an identifier that cannot be read, which
is the fault. -/
inductive Garbled (record : Wire.Endpoint) (fault : Fault) : Prop
  | own {id : String} (hrecord : nonEmpty record.id = some id) (hid : parseId id = .error fault)
  | interface {id : String} (hfirst : firstInterfaceId? record = some id)
      (hid : nameIn "networkInterfaces" id = .error fault)

/-- The last call fetched the record of an endpoint, and it is that record that is at fault. -/
def EndsGarbled (made : List Answered) (fault : Fault) : Prop :=
  ∃ before group name record,
    made = before ++ [.getEndpoint group name (.ok record)] ∧ Garbled record fault

variable {fault : Fault} {made : List Answered}

theorem EndsGarbled.append (earlier : List Answered) (h : EndsGarbled made fault) :
    EndsGarbled (earlier ++ made) fault := by
  obtain ⟨before, group, name, record, rfl, hgarbled⟩ := h
  exact ⟨earlier ++ before, group, name, record, by rw [List.append_assoc], hgarbled⟩

theorem Resolves.validation {group interfaceId : String}
    (h : Resolves group interfaceId made (.error fault)) (hfault : fault.isValidation = true) :
    made = [] ∧ nameIn "networkInterfaces" interfaceId = .error fault := by
  cases h with
  | invalid hid => exact ⟨rfl, hid⟩
  | missing | failed => cases hfault

/-- Reading finds out that an identifier cannot be read before it makes a call, or by the record of
the endpoint. -/
theorem Reads.validation {id : String} (h : Reads id made (.error fault))
    (hfault : fault.isValidation = true) :
    (made = [] ∧ parseId id = .error fault) ∨ EndsGarbled made fault := by
  cases h with
  | invalid hid => exact .inl ⟨rfl, hid⟩
  | failed => cases hfault
  | unresolved hid hfirst hresolve =>
    obtain ⟨rfl, hinterface⟩ := hresolve.validation hfault
    exact .inr ⟨[], _, _, _, rfl, .interface hfirst hinterface⟩

/-- Once an endpoint has been sent, it is a record that is at fault. -/
theorem Takes.validation {spec : Spec} (h : Takes spec made (.error fault))
    (hfault : fault.isValidation = true) : EndsGarbled made fault := by
  cases h with
  | unsent hput => cases hput <;> cases hfault
  | unconfirmed _ hconfirm => cases hconfirm <;> cases hfault
  | lost => cases hfault
  | unread hput hconfirm hread =>
    cases hconfirm with
    | named hrecord =>
      obtain ⟨rfl, hid⟩ | hgarbled := hread.validation hfault
      · exact .append _ ⟨[], _, _, _, rfl, .own hrecord hid⟩
      · exact .append _ (.append _ hgarbled)

theorem Applies.validation {spec : Spec} {mode : Mode} (h : Applies spec mode made (.error fault))
    (hfault : fault.isValidation = true) : made = [] ∨ EndsGarbled made fault := by
  cases h with
  | disagreeing => exact .inl rfl
  | kept _ hcheck => cases hcheck <;> cases hfault
  | taken _ _ htake => exact .inr (.append _ (htake.validation hfault))

theorem Removes.validation {id : String} (h : Removes id made (.error fault))
    (hfault : fault.isValidation = true) : made = [] := by
  cases h with
  | invalid => rfl
  | failed | unfinished => cases hfault

end PrivateLink.Endpoint

namespace PrivateLink.Provider

open Network

variable {σ α : Type}

/-- If the answer is an error of the kind "validation", it came before any call or because of an
endpoint that the last call fetched. -/
def Excused (made : List Answered) (answer : Answer) : Prop :=
  ∀ error, answer = .error error → error.kind = .validation →
    made = [] ∨ ∃ fault, error.cause = some fault ∧ Endpoint.EndsGarbled made fault

theorem validation_of_kind_ofFault {fault : Endpoint.Fault}
    (h : (Error.ofFault fault).kind = .validation) :
    fault.isValidation = true ∧ (Error.ofFault fault).cause = some fault := by
  cases fault <;> first | exact ⟨rfl, rfl⟩ | cases h

/-- An error of the kind "validation" that is shown of work comes from a fault of this kind. -/
theorem validation_of_shown {address : Address} {result : Except Endpoint.Fault α} {error : Error}
    (h : shown address result = .error error) (hkind : error.kind = .validation) :
    ∃ fault, result = .error fault ∧ fault.isValidation = true ∧ error.cause = some fault := by
  cases result with
  | ok _ => cases h
  | error fault =>
    cases h
    exact ⟨fault, rfl, validation_of_kind_ofFault hkind⟩

theorem eq_error_of_map {β : Type} {f : α → β} {result : Except Error α} {error : Error}
    (h : result.map f = .error error) : result = .error error := by
  cases result with
  | error _ =>
    cases h
    rfl
  | ok _ => cases h

/-- That there is nothing to import is an error of another kind. -/
theorem eq_error_of_bind_stateImported {address : Address} {identifier : String}
    {result : Except Error (Option Endpoint.Observed)} {error : Error}
    (h : result.bind (Task.stateImported address identifier) = .error error)
    (hkind : error.kind = .validation) : result = .error error := by
  rcases result with _ | _ | _
  · cases h
    rfl
  · cases h
    cases hkind
  · cases h

variable {provider : Provider σ} {task : Task} {made : List Answered} {answer : Answer}

/-- An error of the kind "validation" is excused. -/
theorem Performs.excused (h : Performs provider task made answer) : Excused made answer := by
  intro error herror hkind
  cases h with
  | refused => exact .inl rfl
  | read hwork =>
    obtain ⟨fault, rfl, hfault, hcause⟩ := validation_of_shown (eq_error_of_map herror) hkind
    exact (hwork.validation hfault).imp And.left fun hgarbled => ⟨fault, hcause, hgarbled⟩
  | create _ hwork | update _ hwork =>
    obtain ⟨fault, rfl, hfault, hcause⟩ := validation_of_shown (eq_error_of_map herror) hkind
    exact (hwork.validation hfault).imp_right fun hgarbled => ⟨fault, hcause, hgarbled⟩
  | delete hwork =>
    obtain ⟨fault, rfl, hfault, -⟩ := validation_of_shown (eq_error_of_map herror) hkind
    exact .inl (hwork.validation hfault)
  | importExisting hwork =>
    obtain ⟨fault, rfl, hfault, hcause⟩ :=
      validation_of_shown (eq_error_of_bind_stateImported (eq_error_of_map herror) hkind) hkind
    exact (hwork.validation hfault).imp And.left fun hgarbled => ⟨fault, hcause, hgarbled⟩

/-- Every task is told with its calls, and an error of the kind "validation" is excused. -/
theorem told_task (provider : Provider σ) (task : Task) :
    Told (task.run provider) (task.run provider.recorded) Excused :=
  (told_performs provider task).mono fun _ _ => Performs.excused

/-- **Errors of the kind "validation"**: over any client and from any state, a task whose answer is
such an error has made no call, or the last call that it made fetched an endpoint that the service
named, or whose first interface it named, by an identifier that cannot be read. -/
theorem run_validation (provider : Provider σ) (task : Task) (state : σ)
    (earlier : List Answered) :
    ∃ made,
      task.run provider.recorded (state, earlier) =
        ((task.run provider state).1, (task.run provider state).2, earlier ++ made) ∧
      Excused made (task.run provider state).1 :=
  told_task provider task state earlier

/-- The endpoint has been sent and the service has finished with it, but then names it by "bad". -/
theorem create_validation_after_put :
    let resource : Resource :=
      { address := { type := "private_link_endpoint", name := "main" }
        attributes :=
          [("name", .string "e"), ("location", .string "westeurope"),
           ("resource_group_name", .string "g"), ("subnet_id", .string "n")] }
    let provider : Provider Script :=
      { client := Script.client, settings := { subscription := "sub1", importProtection := false } }
    let script : Script :=
      { replies :=
          [{ operation := some .completed }, { done := some () },
           { endpoint := some { id := some "bad" } }] }
    let ended := (Task.create resource).run provider script
    (∃ error, ended.1 = .error error ∧ error.kind = .validation) ∧
      ∃ parameters, ended.2.calls =
        [.beginPut "g" "e" parameters, .wait .completed, .getEndpoint "g" "e"] :=
  ⟨⟨_, rfl, rfl⟩, _, rfl⟩

end PrivateLink.Provider
