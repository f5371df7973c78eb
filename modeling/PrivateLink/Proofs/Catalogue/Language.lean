import PrivateLink.Proofs.Catalogue.Admission

/-!
# The attributes that describe an endpoint

The schema of a private link endpoint is put together from fifteen declarations on two levels, and
what it accepts is found by walking through them. Here it is said in one piece which attributes are
accepted, down to the characters of the texts, without mention of types and declarations.

* `Catalogue.endpointSchema_accepts`: the attributes that are accepted, and what makes no difference
  to them.

The two levels are taken one by one: `Catalogue.admitsConnection_iff` is about the block of a
connection, `ValueType.violations_congr` about keys that are not declared.
-/

namespace PrivateLink

/-! ### Texts that are not blank -/

/-- The text holds a character that is not white space. -/
def Text.HasContent (text : String) : Prop :=
  ∃ c ∈ text.toList, isBlank c = false

theorem Text.isBlankText_eq_false_iff {text : String} :
    isBlankText text = false ↔ HasContent text := by
  simp only [isBlankText, HasContent, List.all_eq_false, Bool.not_eq_true]

/-! ### Keys that are not declared -/

/-- What is reported depends on the declared keys alone. -/
theorem ValueType.violations_congr {fields : List Declaration} {attributes others : Attributes}
    (h : ∀ field ∈ fields, others.lookup field.name = attributes.lookup field.name) :
    violations fields others = violations fields attributes := by
  induction fields with
  | nil => rw [violations, violations]
  | cons field fields ih =>
    obtain ⟨hhead, hrest⟩ := List.forall_mem_cons.1 h
    rw [violations, violations, hhead, ih hrest]

namespace Catalogue

variable {attributes block : Attributes} {value : Value}

/-! ### Parts of attributes -/

theorem givesText_iff {key : String} :
    GivesText attributes key ↔
      ∃ text, attributes.lookup key = some (.string text) ∧ Text.HasContent text := by
  simp only [GivesText, Text.isBlankText_eq_false_iff]

theorem isMessage_iff {text : String} :
    IsMessage text ↔ 1 ≤ text.length ∧ text.length ≤ 140 ∧ Text.HasContent text := by
  rw [← Text.isBlankText_eq_false_iff]
  constructor
  · rintro ⟨hnonempty, hshort, hnonblank⟩
    exact ⟨hnonempty, hshort, hnonblank⟩
  · rintro ⟨hnonempty, hshort, hnonblank⟩
    exact ⟨hnonempty, hshort, hnonblank⟩

theorem areTags_iff {tags : List (String × String)} :
    AreTags tags ↔
      tags.length ≤ 50 ∧ ∀ tag ∈ tags, tag.1.length ≤ 512 ∧ tag.2.length ≤ 256 := by
  constructor
  · rintro ⟨hfew, hkeys, htexts⟩
    exact ⟨hfew, fun tag htag => ⟨hkeys tag htag, htexts tag htag⟩⟩
  · rintro ⟨hfew, htags⟩
    exact ⟨hfew, fun tag htag => (htags tag htag).1, fun tag htag => (htags tag htag).2⟩

/-- A list of at most one map is empty or holds one map. -/
theorem exists_few_iff {Kind : Attributes → Prop} :
    (∃ blocks : List Attributes, value = .list (blocks.map .map) ∧ blocks.length ≤ 1 ∧
      ∀ block ∈ blocks, Kind block) ↔
      value = .list [] ∨ ∃ block, value = .list [.map block] ∧ Kind block := by
  constructor
  · rintro ⟨_ | ⟨block, _ | ⟨_, _⟩⟩, rfl, hfew, hblocks⟩
    · exact .inl rfl
    · exact .inr ⟨block, rfl, hblocks block List.mem_cons_self⟩
    · exact absurd hfew (by simp)
  · rintro (rfl | ⟨block, rfl, hblock⟩)
    · exact ⟨[], rfl, Nat.zero_le _, List.forall_mem_nil _⟩
    · exact ⟨[block], rfl, Nat.le_refl _, List.forall_mem_singleton.2 hblock⟩

/-! ### The block of a connection -/

/-- The block has what a connection is described by: a name and a service that are not blank, a
truth value that says whether the connection is manual, perhaps subresources and perhaps a message,
but neither a state nor an address. -/
def DescribesConnection (block : Attributes) : Prop :=
  (∀ key ∈ ["name", "private_connection_resource_id"], ∃ text,
    block.lookup key = some (.string text) ∧ Text.HasContent text) ∧
  (∃ flag, block.lookup "is_manual_connection" = some (.bool flag)) ∧
  (∀ value, block.lookup "subresource_names" = some value →
    ∃ names, value = .strings names ∧ ∀ name ∈ names, Text.HasContent name) ∧
  (∀ value, block.lookup "request_message" = some value →
    ∃ text, value = .string text ∧ 1 ≤ text.length ∧ text.length ≤ 140 ∧ Text.HasContent text) ∧
  ∀ key ∈ ["provisioning_state", "status", "private_ip_address"], block.lookup key = none

theorem admitsConnection_iff : AdmitsConnection block ↔ DescribesConnection block := by
  simp only [DescribesConnection, ← givesText_iff, ← isMessage_iff, List.forall_mem_cons,
    List.not_mem_nil, false_implies, implies_true, and_true]
  simp only [← Text.isBlankText_eq_false_iff]
  constructor
  · rintro ⟨hname, hmanual, hservice, hsubresources, hmessage, hstate, hstatus, haddress⟩
    exact ⟨⟨hname, hservice⟩, hmanual, hsubresources, hmessage, hstate, hstatus, haddress⟩
  · rintro ⟨⟨hname, hservice⟩, hmanual, hsubresources, hmessage, hstate, hstatus, haddress⟩
    exact ⟨hname, hmanual, hservice, hsubresources, hmessage, hstate, hstatus, haddress⟩

/-! ### The attributes of an endpoint -/

/-- **The attributes that are accepted for an endpoint.** Name, location and subnet are texts with a
character that is no white space, and the group is a text that passes the check of groups.
Interfaces are not given. Of connections at most one is given, with a block that describes it, and
of tags at most fifty, their keys of at most 512 and their texts of at most 256 characters. All
other keys are free, in the attributes and in the block: what is reported does not depend on them.
-/
theorem endpointSchema_accepts (attributes : Attributes) :
    (endpointSchema.violations attributes = [] ↔
      (∀ key ∈ ["name", "location", "subnet_id"], ∃ text,
        attributes.lookup key = some (.string text) ∧ Text.HasContent text) ∧
      (∃ group, attributes.lookup "resource_group_name" = some (.string group) ∧
        checkGroupName group = .ok ()) ∧
      attributes.lookup "network_interface_ids" = none ∧
      (∀ value, attributes.lookup "private_service_connection" = some value →
        value = .list [] ∨ ∃ block, value = .list [.map block] ∧ DescribesConnection block) ∧
      ∀ value, attributes.lookup "tags" = some value →
        ∃ tags, value = .textMap tags ∧ tags.length ≤ 50 ∧
          ∀ tag ∈ tags, tag.1.length ≤ 512 ∧ tag.2.length ≤ 256) ∧
    (∀ others : Attributes,
      (∀ field ∈ endpointDeclarations, others.lookup field.name = attributes.lookup field.name) →
      endpointSchema.violations others = endpointSchema.violations attributes) ∧
    ∀ block others : Attributes,
      (∀ field ∈ connectionFields, others.lookup field.name = block.lookup field.name) →
      ValueType.check connection (.map others) = ValueType.check connection (.map block) := by
  refine ⟨violations_endpointSchema_eq_nil_iff.trans ?_, fun others h => ?_,
    fun block others h => ?_⟩
  · simp only [← givesText_iff, ← admitsConnection_iff, ← exists_few_iff, ← areTags_iff,
      List.forall_mem_cons, List.not_mem_nil, false_implies, implies_true, and_true]
    constructor
    · rintro ⟨hname, hlocation, hgroup, hsubnet, hconnections, hinterfaces, htags⟩
      exact ⟨⟨hname, hlocation, hsubnet⟩, hgroup, hinterfaces, hconnections, htags⟩
    · rintro ⟨⟨hname, hlocation, hsubnet⟩, hgroup, hinterfaces, hconnections, htags⟩
      exact ⟨hname, hlocation, hgroup, hsubnet, hconnections, hinterfaces, htags⟩
  · refine ValueType.violations_congr fun field hfield => h field ?_
    exact mem_endpointSchema_iff.1 hfield
  · rw [connection, ValueType.check, ValueType.check, ValueType.violations_congr h]

/-- A message of 140 letters with an accent, and a key that is not declared on each level. -/
theorem endpointSchema_accepts_annotated :
    let message := String.ofList (List.replicate 140 'é')
    let block : Attributes :=
      [("is_manual_connection", .bool true), ("name", .string "c"),
       ("private_connection_resource_id", .string "s"), ("request_message", .string message)]
    let attributes : Attributes :=
      [("location", .string "l"), ("name", .string "e"),
       ("private_service_connection", .list [.map block]), ("resource_group_name", .string "g"),
       ("subnet_id", .string "n")]
    let annotated := insertEntry "comment" (.list []) attributes
    let annotatedBlock := insertEntry "comment" (.int 1) block
    ((∀ field ∈ endpointDeclarations,
        annotated.lookup field.name = attributes.lookup field.name) ∧
      ∀ field ∈ connectionFields, annotatedBlock.lookup field.name = block.lookup field.name) ∧
      endpointSchema.violations annotated = [] ∧
      ValueType.check connection (.map annotatedBlock) =
        ValueType.check connection (.map block) := by
  intro message block attributes annotated annotatedBlock
  have hundeclared : ∀ field ∈ endpointDeclarations, field.name ≠ "comment" := by decide
  have hunknown : ∀ field ∈ connectionFields, field.name ≠ "comment" := by decide
  have hsame : ∀ field ∈ endpointDeclarations,
      annotated.lookup field.name = attributes.lookup field.name := fun field hfield =>
    (lookup_insertEntry ..).trans (if_neg (hundeclared field hfield))
  have hsameBlock : ∀ field ∈ connectionFields,
      annotatedBlock.lookup field.name = block.lookup field.name := fun field hfield =>
    (lookup_insertEntry ..).trans (if_neg (hunknown field hfield))
  have hlength : message.length = 140 := by rw [String.length_ofList, List.length_replicate]
  have hletter : 'é' ∈ message.toList := by
    rw [String.toList_ofList]
    exact List.mem_replicate.2 ⟨by decide, rfl⟩
  have hmessage : Text.HasContent message := ⟨'é', hletter, by decide⟩
  have hdescribes : DescribesConnection block := by
    refine ⟨?_, ⟨true, rfl⟩, nofun, ?_, by decide⟩
    · simp only [List.forall_mem_cons]
      exact ⟨⟨"c", rfl, 'c', by decide, by decide⟩, ⟨"s", rfl, 's', by decide, by decide⟩, nofun⟩
    · rintro _ ⟨⟩
      exact ⟨message, rfl, by omega, by omega, hmessage⟩
  obtain ⟨haccepted, hfree, hfreeBlock⟩ := endpointSchema_accepts attributes
  have hattributes : endpointSchema.violations attributes = [] := by
    refine haccepted.2 ⟨?_, ⟨"g", rfl, rfl⟩, rfl, ?_, nofun⟩
    · simp only [List.forall_mem_cons]
      exact ⟨⟨"e", rfl, 'e', by decide, by decide⟩, ⟨"l", rfl, 'l', by decide, by decide⟩,
        ⟨"n", rfl, 'n', by decide, by decide⟩, nofun⟩
    · rintro _ ⟨⟩
      exact .inr ⟨block, rfl, hdescribes⟩
  exact ⟨⟨hsame, hsameBlock⟩, (hfree _ hsame).trans hattributes, hfreeBlock _ _ hsameBlock⟩

end Catalogue

end PrivateLink
