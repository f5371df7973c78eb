import PrivateLink.Proofs.Cloud.Steady
import PrivateLink.Proofs.Provider.Admission
import PrivateLink.Proofs.Provider.Reapplied

/-!
# Names that identifiers can hold

An endpoint is put under its resource group and its name, but it is read back under the identifier
that the service makes of both. Of the names that the schema lets through, this identifier gives
back those without a slash. A slash in a name makes two segments of it, so that what is read back is
nothing at all or another endpoint, while the one that was asked for has been put already.

* `parseId_endpointId_iff`: which names are read back;
* `create_reads_back`: what this means for the creation of a resource.
-/

namespace PrivateLink.Provider

open Cloud Endpoint
open Manager.Identifier (IsSegment)

/-- **A name is read back from an identifier** when it has no slash in it. -/
theorem parseId_endpointId_iff {group name : String} (hgroup : IsSegment group) (hname : name ≠ "") :
    parseId (endpointId group name) = .ok (group, name) ↔ '/' ∉ name.toList := by
  constructor
  · intro hread
    exact (isSegment_of_parseId hread).2.2
  · intro hslash
    exact parseId_endpointId hgroup ⟨hname, hslash⟩

variable {settings : Settings} {scope : Stop.Scope} {resource : Resource} {spec : Spec}
  {mode : Mode} {cloud created : Cloud} {observed : Observed}

/-- Under a name with a slash, what an application comes to is another endpoint. -/
theorem exists_other_of_apply (h : apply Cloud.client scope spec mode cloud = (.ok observed, created))
    (hslash : '/' ∈ spec.name.toList) :
    ∃ group name record address, name ≠ spec.name ∧
      created.endpoints.get? group name = some record ∧
      observed =
        observe (endpointId spec.resourceGroup spec.name) group name record address := by
  obtain ⟨-, -, sent, named, id, hsent, hid, hnamed, hread, hcreated⟩ := exists_of_apply h
  obtain rfl := eq_endpointId_of_appliedId hsent hid
  obtain ⟨group, name, hparse⟩ := exists_parseId_of_read hread
  obtain ⟨record, address, hget, hobserved⟩ := exists_of_read hparse hread
  refine ⟨group, name, record, address, ?_, ?_, hobserved⟩
  · rintro rfl
    exact (isSegment_of_parseId hparse).2.2 hslash
  · rw [(holds_of_unrecorded (hcreated.trans hnamed.symm)).1]
    exact get?_of_getEndpoint hget

/-- **What is created is read back** if its name has no slash in it. A name of an endpoint that the
schema lets through comes back from the identifier that the service makes of it just when it has
none. So let a cloud show no failures, and let a resource without a problem be created in it whose
settings agree, which is not there yet if that matters. Then its endpoint is put. Without a slash in
the name the creation succeeds with a state of this name and this resource group; with a slash it
may fail although the endpoint was put, and otherwise its state is that of another endpoint. -/
theorem create_reads_back (settings : Settings) (scope : Stop.Scope) :
    (∀ group name, Catalogue.checkGroupName group = .ok () →
      Catalogue.checkNonBlank name = .ok () →
      (parseId (endpointId group name) = .ok (group, name) ↔ '/' ∉ name.toList)) ∧
    ∀ (cloud : Cloud) (resource : Resource),
      Steady ((overCloud settings scope).operationScope cloud) cloud → resource.problem? = none →
      ∃ spec, specOf resource = .ok spec ∧ (spec.checkAgreement = .ok () →
        (settings.importProtection = true →
          cloud.endpoints.get? spec.resourceGroup spec.name = none) →
        let created := (Task.create resource).run (overCloud settings scope) cloud
        let id := endpointId spec.resourceGroup spec.name
        created.2.endpoints.get? spec.resourceGroup spec.name =
            some (cloud.storedRecord spec.resourceGroup spec.name spec.parameters) ∧
          ('/' ∉ spec.name.toList →
            ∃ state, created.1 = .ok (some state) ∧ state.identifier = some id ∧
              state.attributes.lookup "name" = some (.string spec.name) ∧
              state.attributes.lookup "resource_group_name" =
                some (.string spec.resourceGroup)) ∧
          ('/' ∈ spec.name.toList → ∀ state, created.1 = .ok (some state) →
            ∃ group name record address, name ≠ spec.name ∧
              created.2.endpoints.get? group name = some record ∧
              state = stateOf resource.address (observe id group name record address))) := by
  refine ⟨fun group name hgroup hname => ?_, fun cloud resource hsteady hproblem => ?_⟩
  · exact parseId_endpointId_iff (Catalogue.isSegment_of_checkGroupName hgroup)
      (Catalogue.ne_empty_of_checkNonBlank hname)
  obtain ⟨spec, hspec⟩ := (problem?_eq_none_iff resource).1 hproblem
  have hgroup : IsSegment spec.resourceGroup := isSegment_group_of_specOf hspec
  refine ⟨spec, hspec, fun hagree hfree => ?_⟩
  intro created id
  have hfree' : (Mode.create settings.importProtection).isStrict = true →
      cloud.endpoints.get? spec.resourceGroup spec.name = none := hfree
  have hcreated : ∀ state done, created = (.ok (some state), done) ↔
      ∃ observed, apply Cloud.client ((overCloud settings scope).operationScope cloud) spec
        (.create settings.importProtection) cloud = (.ok observed, done) ∧
        state = stateOf resource.address observed := by
    intro state done
    change (Task.create resource).run (overCloud settings scope) cloud = _ ↔ _
    rw [Task.run_create hspec]
    exact shown_eq_ok_iff
  refine ⟨?stored, ?readBack, ?other⟩
  case stored =>
    have hdone : created.2 = (apply Cloud.client ((overCloud settings scope).operationScope cloud)
        spec (.create settings.importProtection) cloud).2 := by
      change ((Task.create resource).run (overCloud settings scope) cloud).2 = _
      rw [Task.run_create hspec]
      rfl
    rw [hdone]
    exact get?_of_stored (unrecorded_apply_of_steady hsteady hagree hfree')
  case readBack =>
    intro hslash
    have hname : IsSegment spec.name := ⟨name_ne_empty_of_specOf hspec, hslash⟩
    obtain ⟨observed, done, happly⟩ := exists_apply_eq_ok hsteady hagree hfree' hgroup hname
    obtain ⟨address, rfl⟩ := observe_of_apply happly hgroup hname
    have hreports := State.reports_stateOf resource.address id spec.resourceGroup spec.name
      (cloud.storedRecord spec.resourceGroup spec.name spec.parameters) address
    refine ⟨_, congrArg Prod.fst ((hcreated _ done).2 ⟨_, happly, rfl⟩), rfl, ?_, ?_⟩
    · exact hreports.name
    · exact hreports.resourceGroup
  case other =>
    intro hslash state hstate
    obtain ⟨observed, happly, rfl⟩ := (hcreated state created.2).1 (Prod.ext hstate rfl)
    obtain ⟨group, name, record, address, hne, hfound, rfl⟩ := exists_other_of_apply happly hslash
    exact ⟨group, name, record, address, hne, hfound, rfl⟩

/-- The attributes of an endpoint with this name. -/
def plainAttributes (name : String) : Attributes :=
  [("location", .string "westeurope"), ("name", .string name),
   ("resource_group_name", .string "g"), ("subnet_id", .string "n")]

/-- An endpoint is created beside another one, with import protection. -/
theorem create_reads_back_beside :
    let resource : Resource :=
      { address := { type := "private_link_endpoint", name := "main" }
        attributes := plainAttributes "e" }
    let settings : Settings := { subscription := "s", importProtection := true }
    let cloud : Cloud := { endpoints := [(("g", "f"), {})] }
    let created := (Task.create resource).run (overCloud settings .background) cloud
    parseId (endpointId "g" "e") = .ok ("g", "e") ∧
      ∃ state, created.1 = .ok (some state) ∧
        state.identifier = some (endpointId "g" "e") ∧
        state.attributes.lookup "name" = some (.string "e") ∧
        state.attributes.lookup "resource_group_name" = some (.string "g") := by
  intro resource settings cloud created
  obtain ⟨hread, hcreate⟩ := create_reads_back settings .background
  have hsteady : Steady ((overCloud settings .background).operationScope cloud) cloud :=
    ⟨⟨by decide, rfl, rfl⟩, rfl, rfl, rfl⟩
  have hproblem : resource.problem? = none := by decide +kernel
  have hknown : specOf resource =
      .ok { name := "e", location := "westeurope", resourceGroup := "g", subnetId := "n" } := by
    decide +kernel
  obtain ⟨spec, hspec, hcreate⟩ := hcreate cloud resource hsteady hproblem
  cases hspec.symm.trans hknown
  obtain ⟨-, hstate, -⟩ := hcreate rfl fun _ => by decide +kernel
  exact ⟨(hread "g" "e" (by decide +kernel) (by decide +kernel)).2 (by decide), hstate (by decide)⟩

/-- The schema lets names with slashes through. The identifier of one of them cannot be read, which
is an error of validation although the endpoint was put; that of another one is read as an endpoint
that was there before, whose state is then taken for what was created. -/
theorem create_misreads_slash :
    let resource (name : String) : Resource :=
      { address := { type := "private_link_endpoint", name := "main" }
        attributes := plainAttributes name }
    let create (name : String) (cloud : Cloud) :=
      (Task.create (resource name)).run (overCloud { subscription := "s" } .background) cloud
    let other : Cloud := { endpoints := [(("g", "a"), { name := some "a" })] }
    (resource "a/b").problem? = none ∧ (resource "a/b/c").problem? = none ∧
      parseId (endpointId "g" "a/b/c") = .ok ("g", "a") ∧
      (create "a/b" {}).1.mapError (·.kind) = .error .validation ∧
      ((create "a/b" {}).2.endpoints.get? "g" "a/b").isSome = true ∧
      (create "a/b/c" other).1.map (·.map fun state => state.attributes.lookup "name") =
        .ok (some (some (.string "a"))) := by
  intro resource create other
  refine ⟨?accepted, ?acceptedToo, ?identifier, ?error, ?put, ?state⟩
  all_goals decide +kernel

end PrivateLink.Provider
