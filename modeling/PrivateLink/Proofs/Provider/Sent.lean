import PrivateLink.Proofs.Endpoint.Parameters
import PrivateLink.Proofs.Provider.Admission
import PrivateLink.Proofs.Provider.Course
import PrivateLink.Script

/-!
# What the provider sends

Records of endpoints are sent by creating and changing resources only, after the resource has been
accepted and its settings have been found to agree. So each record that is sent asks for an endpoint
as the service expects it.

* `Performs.exists_sent`: which record is sent;
* `run_asks`: every record that a task sends asks for an endpoint.
-/

namespace PrivateLink

open Network

namespace Endpoint

variable {id group name : String} {made : List Answered} {parameters : Wire.Endpoint}
  {sent : Except Failure Operation}

theorem Reads.beginPut_notMem {result : Except Fault (Option Observed)}
    (h : Reads id made result) : .beginPut group name parameters sent ∉ made := by
  intro hmem
  obtain ⟨_, _, _, hcalls, -⟩ := h.calls
  have hcall := hcalls.subset (List.mem_map_of_mem hmem)
  simp [Answered.request] at hcall

theorem Removes.beginPut_notMem {result : Except Fault Unit} (h : Removes id made result) :
    .beginPut group name parameters sent ∉ made := by
  cases h <;> simp

end Endpoint

namespace Provider

/-- The resource that the task asks for. -/
def Task.desired? : Task → Option Resource
  | .create resource => some resource
  | .update _ _ _ desired => some desired
  | .read _ _ | .delete _ _ | .importExisting _ _ => none

variable {σ : Type} {provider : Provider σ} {task : Task} {made : List Answered} {answer : Answer}
  {group name : String} {parameters : Wire.Endpoint} {sent : Except Failure Operation}

/-- What is sent is the record of the endpoint that the task asks for. The resource has been
accepted, and the settings of the endpoint agree. -/
theorem Performs.exists_sent (h : Performs provider task made answer)
    (hmem : .beginPut group name parameters sent ∈ made) :
    ∃ desired spec, task.desired? = some desired ∧ specOf desired = .ok spec ∧
      spec.checkAgreement = .ok () ∧ parameters = spec.parameters := by
  cases h with
  | refused => cases hmem
  | read hwork | importExisting hwork => exact absurd hmem hwork.beginPut_notMem
  | delete hwork => exact absurd hmem hwork.beginPut_notMem
  | create hspec hwork =>
    obtain ⟨hagree, -, -, hparameters⟩ := hwork.sent_of_mem hmem
    exact ⟨_, _, rfl, hspec, hagree, hparameters⟩
  | update hspec hwork =>
    -- What is changed has been accepted as what is created has.
    obtain ⟨hagree, -, -, hparameters⟩ := hwork.sent_of_mem hmem
    exact ⟨_, _, rfl, (accepted_of_updateSpec hspec).1, hagree, hparameters⟩

/-- A record that is sent asks for an endpoint. -/
theorem Performs.asks (h : Performs provider task made answer)
    (hmem : .beginPut group name parameters sent ∈ made) : parameters.Asks := by
  obtain ⟨_, _, -, hspec, hagree, rfl⟩ := h.exists_sent hmem
  exact Endpoint.Spec.asks_parameters (isDesired_of_specOf hspec) hagree

/-- **What is sent**: over any client, from any state and whatever the resource, the identifier and
the state that is known of it, each record that a task sends asks for an endpoint with a normal
location, a subnet, tags within their limits and at most one connection, which is on the side that
its request message calls for, and sets nothing that only the service knows. -/
theorem run_asks (provider : Provider σ) (task : Task) (state : σ) (earlier : List Answered) :
    ∃ made,
      task.run provider.recorded (state, earlier) =
        ((task.run provider state).1, (task.run provider state).2, earlier ++ made) ∧
      ∀ group name parameters sent,
        .beginPut group name parameters sent ∈ made → parameters.Asks := by
  obtain ⟨made, hmade, hperforms⟩ := told_performs provider task state earlier
  exact ⟨made, hmade, fun _ _ _ _ => hperforms.asks⟩

/-- An endpoint with a manual connection is sent. -/
theorem create_manual_asks :
    let connection : Attributes :=
      [("is_manual_connection", .bool true), ("name", .string "c"),
       ("private_connection_resource_id", .string "r"), ("request_message", .string "please")]
    let resource : Resource :=
      { address := { type := "private_link_endpoint", name := "main" }
        attributes :=
          [("location", .string "West Europe"), ("name", .string "e"),
           ("private_service_connection", .list [.map connection]),
           ("resource_group_name", .string "g"), ("subnet_id", .string "n")] }
    let provider : Provider Script :=
      { client := Script.client, settings := { subscription := "s", importProtection := false } }
    let script : Script := { replies := [{ operation := some .completed }] }
    let parameters : Wire.Endpoint :=
      { location := some "westeurope"
        tags := some {}
        properties := some
          { subnet := some { id := some "n" }
            automaticConnections := some []
            manualConnections := some
              [{ name := some "c"
                 properties := some
                   { serviceId := some "r"
                     groupIds := some []
                     requestMessage := some "please" } }] } }
    ((Task.create resource).run provider.recorded (script, [])).2.2.map Answered.request =
        [.beginPut "g" "e" parameters, .wait .completed] ∧
      parameters.Asks := by
  intro connection resource provider script parameters
  have hcalls : ((Task.create resource).run provider.recorded (script, [])).2.2.map
      Answered.request = [.beginPut "g" "e" parameters, .wait .completed] := by
    decide +kernel
  refine ⟨hcalls, ?_⟩
  obtain ⟨made, hmade, hasks⟩ := run_asks provider (.create resource) script []
  rw [hmade] at hcalls
  obtain ⟨call, hcall, hrequest⟩ := List.mem_map.1 (hcalls ▸ List.mem_cons_self)
  cases call <;> cases hrequest
  exact hasks _ _ _ _ hcall

end Provider

end PrivateLink
