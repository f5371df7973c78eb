import PrivateLink.Endpoint.Lifecycle
import PrivateLink.Proofs.Network.Recorded

/-!
# How work on endpoints goes

For each piece of work on endpoints there is a relation between the calls that it makes, with the
answers to them, and what it comes to. Each way in which the work can end is one rule, so the calls
that were made and the step that went wrong can be read off a rule.

* `told_read`, `told_apply`, `told_remove`: the work goes by the rules, over any client.
-/

namespace PrivateLink.Endpoint

open Network

/-! ### The rules -/

/-- Looking up the private address of an interface in a resource group. -/
inductive Resolves (group interfaceId : String) :
    List Answered → Except Fault (Option String) → Prop
  | invalid {fault : Fault} (hid : nameIn "networkInterfaces" interfaceId = .error fault) :
      Resolves group interfaceId [] (.error fault)
  | missing {identifier : Manager.Identifier} {name : String} {failure : Failure}
      (hid : nameIn "networkInterfaces" interfaceId = .ok (identifier, name))
      (hfailure : failure.isNotFound = true) :
      Resolves group interfaceId [.getInterface group name (.error failure)]
        (.error (.interfaceNotFound name group))
  | failed {identifier : Manager.Identifier} {name : String} {failure : Failure}
      (hid : nameIn "networkInterfaces" interfaceId = .ok (identifier, name))
      (hfailure : failure.isNotFound = false) :
      Resolves group interfaceId [.getInterface group name (.error failure)]
        (.error (.interface name group failure))
  | found {identifier : Manager.Identifier} {name : String} {interface : Wire.Interface}
      (hid : nameIn "networkInterfaces" interfaceId = .ok (identifier, name)) :
      Resolves group interfaceId [.getInterface group name (.ok interface)]
        (.ok interface.firstAddress?)

/-- Finding out what has become of the endpoint with the given identifier. -/
inductive Reads (id : String) : List Answered → Except Fault (Option Observed) → Prop
  | invalid {fault : Fault} (hid : parseId id = .error fault) : Reads id [] (.error fault)
  | absent {group name : String} {failure : Failure} (hid : parseId id = .ok (group, name))
      (hfailure : failure.isNotFound = true) :
      Reads id [.getEndpoint group name (.error failure)] (.ok none)
  | failed {group name : String} {failure : Failure} (hid : parseId id = .ok (group, name))
      (hfailure : failure.isNotFound = false) :
      Reads id [.getEndpoint group name (.error failure)]
        (.error (.request .read name group failure))
  | detached {group name : String} {record : Wire.Endpoint} (hid : parseId id = .ok (group, name))
      (hfirst : firstInterfaceId? record = none) :
      Reads id [.getEndpoint group name (.ok record)]
        (.ok (some (observe id group name record none)))
  | unresolved {group name interfaceId : String} {record : Wire.Endpoint} {made : List Answered}
      {fault : Fault} (hid : parseId id = .ok (group, name))
      (hfirst : firstInterfaceId? record = some interfaceId)
      (hresolve : Resolves group interfaceId made (.error fault)) :
      Reads id (.getEndpoint group name (.ok record) :: made) (.error fault)
  | attached {group name interfaceId : String} {record : Wire.Endpoint} {made : List Answered}
      {address : Option String} (hid : parseId id = .ok (group, name))
      (hfirst : firstInterfaceId? record = some interfaceId)
      (hresolve : Resolves group interfaceId made (.ok address)) :
      Reads id (.getEndpoint group name (.ok record) :: made)
        (.ok (some (observe id group name record address)))

/-- Making sure that there is no endpoint yet, if the mode asks for it. -/
inductive ChecksAbsence (spec : Spec) : Mode → List Answered → Except Fault Unit → Prop
  | skipped {mode : Mode} (hmode : mode ≠ .create true) : ChecksAbsence spec mode [] (.ok ())
  | occupied {record : Wire.Endpoint} :
      ChecksAbsence spec (.create true) [.getEndpoint spec.resourceGroup spec.name (.ok record)]
        (.error (.alreadyExists (record.id.getD spec.name)))
  | failed {failure : Failure} (hfailure : failure.isNotFound = false) :
      ChecksAbsence spec (.create true)
        [.getEndpoint spec.resourceGroup spec.name (.error failure)]
        (.error (.request .checkExisting spec.name spec.resourceGroup failure))
  | free {failure : Failure} (hfailure : failure.isNotFound = true) :
      ChecksAbsence spec (.create true)
        [.getEndpoint spec.resourceGroup spec.name (.error failure)] (.ok ())

/-- Sending an endpoint and waiting until it has taken effect. -/
inductive Puts (spec : Spec) : List Answered → Except Fault Unit → Prop
  | failed {failure : Failure} :
      Puts spec [.beginPut spec.resourceGroup spec.name spec.parameters (.error failure)]
        (.error (.request .createOrUpdate spec.name spec.resourceGroup failure))
  | unfinished {operation : Operation} {failure : Failure} :
      Puts spec
        [.beginPut spec.resourceGroup spec.name spec.parameters (.ok operation),
          .wait operation (.error failure)]
        (.error (.wait .createOrUpdate spec.name spec.resourceGroup failure))
  | done {operation : Operation} :
      Puts spec
        [.beginPut spec.resourceGroup spec.name spec.parameters (.ok operation),
          .wait operation (.ok ())]
        (.ok ())

/-- Asking for the identifier of an endpoint that has been applied. -/
inductive Confirms (spec : Spec) : List Answered → Except Fault String → Prop
  | failed {failure : Failure} :
      Confirms spec [.getEndpoint spec.resourceGroup spec.name (.error failure)]
        (.error (.request .read spec.name spec.resourceGroup failure))
  | nameless {record : Wire.Endpoint} (hrecord : nonEmpty record.id = none) :
      Confirms spec [.getEndpoint spec.resourceGroup spec.name (.ok record)]
        (.error (.emptyId spec.name spec.resourceGroup))
  | named {record : Wire.Endpoint} {id : String} (hrecord : nonEmpty record.id = some id) :
      Confirms spec [.getEndpoint spec.resourceGroup spec.name (.ok record)] (.ok id)

/-- Bringing an endpoint about, from sending it on, up to the first step that goes wrong. -/
inductive Takes (spec : Spec) : List Answered → Except Fault Observed → Prop
  | unsent {put : List Answered} {fault : Fault} (hput : Puts spec put (.error fault)) :
      Takes spec put (.error fault)
  | unconfirmed {put confirmed : List Answered} {fault : Fault} (hput : Puts spec put (.ok ()))
      (hconfirm : Confirms spec confirmed (.error fault)) :
      Takes spec (put ++ confirmed) (.error fault)
  | unread {put confirmed read : List Answered} {id : String} {fault : Fault}
      (hput : Puts spec put (.ok ())) (hconfirm : Confirms spec confirmed (.ok id))
      (hread : Reads id read (.error fault)) :
      Takes spec (put ++ (confirmed ++ read)) (.error fault)
  | lost {put confirmed read : List Answered} {id : String} (hput : Puts spec put (.ok ()))
      (hconfirm : Confirms spec confirmed (.ok id)) (hread : Reads id read (.ok none)) :
      Takes spec (put ++ (confirmed ++ read))
        (.error (.notFoundAfterApply spec.name spec.resourceGroup))
  | done {put confirmed read : List Answered} {id : String} {observed : Observed}
      (hput : Puts spec put (.ok ())) (hconfirm : Confirms spec confirmed (.ok id))
      (hread : Reads id read (.ok (some observed))) :
      Takes spec (put ++ (confirmed ++ read)) (.ok observed)

/-- Creating or changing an endpoint. -/
inductive Applies (spec : Spec) (mode : Mode) : List Answered → Except Fault Observed → Prop
  | disagreeing {fault : Fault} (hagree : spec.checkAgreement = .error fault) :
      Applies spec mode [] (.error fault)
  | kept {checked : List Answered} {fault : Fault} (hagree : spec.checkAgreement = .ok ())
      (hcheck : ChecksAbsence spec mode checked (.error fault)) :
      Applies spec mode checked (.error fault)
  | taken {checked taken : List Answered} {result : Except Fault Observed}
      (hagree : spec.checkAgreement = .ok ()) (hcheck : ChecksAbsence spec mode checked (.ok ()))
      (htake : Takes spec taken result) : Applies spec mode (checked ++ taken) result

/-- Deleting the endpoint with the given identifier. -/
inductive Removes (id : String) : List Answered → Except Fault Unit → Prop
  | invalid {fault : Fault} (hid : parseId id = .error fault) : Removes id [] (.error fault)
  | absent {group name : String} {failure : Failure} (hid : parseId id = .ok (group, name))
      (hfailure : failure.isNotFound = true) :
      Removes id [.beginDelete group name (.error failure)] (.ok ())
  | failed {group name : String} {failure : Failure} (hid : parseId id = .ok (group, name))
      (hfailure : failure.isNotFound = false) :
      Removes id [.beginDelete group name (.error failure)]
        (.error (.request .delete name group failure))
  | vanished {group name : String} {operation : Operation} {failure : Failure}
      (hid : parseId id = .ok (group, name)) (hfailure : failure.isNotFound = true) :
      Removes id [.beginDelete group name (.ok operation), .wait operation (.error failure)]
        (.ok ())
  | unfinished {group name : String} {operation : Operation} {failure : Failure}
      (hid : parseId id = .ok (group, name)) (hfailure : failure.isNotFound = false) :
      Removes id [.beginDelete group name (.ok operation), .wait operation (.error failure)]
        (.error (.wait .delete name group failure))
  | done {group name : String} {operation : Operation} (hid : parseId id = .ok (group, name)) :
      Removes id [.beginDelete group name (.ok operation), .wait operation (.ok ())] (.ok ())

/-! ### Work goes by the rules -/

variable {σ : Type} (client : Client σ) (scope : Stop.Scope)

theorem told_resolveAddress (group interfaceId : String) :
    Told (resolveAddress client scope group interfaceId)
      (resolveAddress client.recorded scope group interfaceId) (Resolves group interfaceId) := by
  unfold resolveAddress
  split
  next hid => exact .pure (.invalid hid)
  next hid =>
    refine Told.call_bind ?_
    rintro (failure | interface)
    · dsimp only
      split
      next hmissing => exact .pure (.missing hid hmissing)
      next hfailed => exact .pure (.failed hid (Bool.eq_false_iff.2 hfailed))
    · exact .pure (.found hid)

/-- **Finding out what has become of an endpoint** goes by its rules. -/
theorem told_read (id : String) :
    Told (read client scope id) (read client.recorded scope id) (Reads id) := by
  unfold read
  split
  next hid => exact .pure (.invalid hid)
  next hid =>
    refine Told.call_bind ?_
    rintro (failure | record)
    · dsimp only
      split
      next hmissing => exact .pure (.absent hid hmissing)
      next hfailed => exact .pure (.failed hid (Bool.eq_false_iff.2 hfailed))
    · dsimp only
      split
      next hfirst => exact .pure (.detached hid hfirst)
      next hfirst =>
        refine (told_resolveAddress client scope _ _).bind ?_
        rintro (fault | address)
        · exact .stop fun made hresolve => .unresolved hid hfirst hresolve
        · exact .stop fun made hresolve => .attached hid hfirst hresolve

theorem told_checkAbsent (spec : Spec) (mode : Mode) :
    Told (checkAbsent client scope spec mode) (checkAbsent client.recorded scope spec mode)
      (ChecksAbsence spec mode) := by
  unfold checkAbsent
  split
  next =>
    refine Told.call_bind ?_
    rintro (failure | record)
    · dsimp only
      split
      next hmissing => exact .pure (.free hmissing)
      next hfailed => exact .pure (.failed (Bool.eq_false_iff.2 hfailed))
    · exact .pure .occupied
  next hmode => exact .pure (.skipped hmode)

theorem told_put (spec : Spec) :
    Told (put client scope spec) (put client.recorded scope spec) (Puts spec) := by
  refine Told.call_bind ?_
  rintro (failure | operation)
  · exact .pure .failed
  · refine Told.call_bind ?_
    rintro (failure | ⟨⟩)
    · exact .pure .unfinished
    · exact .pure .done

theorem told_appliedId (spec : Spec) :
    Told (appliedId client scope spec) (appliedId client.recorded scope spec) (Confirms spec) := by
  refine Told.call_bind ?_
  rintro (failure | record)
  · exact .pure .failed
  · dsimp only
    split
    next hrecord => exact .pure (.named hrecord)
    next hrecord => exact .pure (.nameless hrecord)

/-- **Creating or changing an endpoint** goes by its rules. -/
theorem told_apply (spec : Spec) (mode : Mode) :
    Told (apply client scope spec mode) (apply client.recorded scope spec mode)
      (Applies spec mode) := by
  unfold apply
  split
  next hagree => exact .pure (.disagreeing hagree)
  next hagree =>
    refine (told_checkAbsent client scope spec mode).bind ?_
    rintro (fault | ⟨⟩)
    · exact .stop fun checked hcheck => .kept hagree hcheck
    -- From here on the steps are the same in every mode.
    suffices htakes : Told _ _ (Takes spec) from
      htakes.mono fun taken result htake checked hcheck => .taken hagree hcheck htake
    refine (told_put client scope spec).bind ?_
    rintro (fault | ⟨⟩)
    · exact .stop fun put hput => .unsent hput
    refine (told_appliedId client scope spec).bind ?_
    rintro (fault | id)
    · exact .stop fun confirmed hconfirm put hput => .unconfirmed hput hconfirm
    refine (told_read client scope id).bind ?_
    rintro (fault | observed | observed)
    · exact .stop fun read hread confirmed hconfirm put hput => .unread hput hconfirm hread
    · exact .stop fun read hread confirmed hconfirm put hput => .lost hput hconfirm hread
    · exact .stop fun read hread confirmed hconfirm put hput => .done hput hconfirm hread

/-- **Deleting an endpoint** goes by its rules. -/
theorem told_remove (id : String) :
    Told (remove client scope id) (remove client.recorded scope id) (Removes id) := by
  unfold remove
  split
  next hid => exact .pure (.invalid hid)
  next hid =>
    refine Told.call_bind ?_
    rintro (failure | operation)
    · dsimp only
      split
      next hmissing => exact .pure (.absent hid hmissing)
      next hfailed => exact .pure (.failed hid (Bool.eq_false_iff.2 hfailed))
    · refine Told.call_bind ?_
      rintro (failure | ⟨⟩)
      · dsimp only
        split
        next hmissing => exact .pure (.vanished hid hmissing)
        next hfailed => exact .pure (.unfinished hid (Bool.eq_false_iff.2 hfailed))
      · exact .pure (.done hid)

end PrivateLink.Endpoint
