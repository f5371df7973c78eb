import PrivateLink.Proofs.Attribute.Rendering
import PrivateLink.Proofs.Json.Layout
import PrivateLink.ResourceFile

/-!
# States as resource files

The lines that show a state are a resource file. Its type, its name and its attributes are those of
the state; the identifier is no field of resource files and is passed over. Shown and read, the
attributes may nest as deep as readers of values allow.

* `State.read?_lines`: the lines are read as the document that shows the state;
* `ResourceFile.parse?_lines`: what they say as a resource file;
* `State.resource_lines`: the resource that they describe.
-/

namespace PrivateLink

open Json

/-! ### The document of a state -/

/-- The document that shows a state can be spelled. -/
theorem State.spellable_document (state : State) : state.document.Spellable := by
  have hidentifier : (state.identifier.elim .null .text : Json).Spellable := by
    cases state.identifier with
    | none => trivial
    | some identifier => rfl
  exact ⟨⟨rfl, Value.spellable_toJson _⟩, ⟨rfl, hidentifier⟩, ⟨rfl, rfl⟩, ⟨rfl, rfl⟩, trivial⟩

/-- The lines are read as the document that shows the state. -/
theorem State.read?_lines (state : State) : Json.read? state.lines = some state.document :=
  read?_pretty state.spellable_document

/-- The attributes nest two levels less deep than the document, one for the document and one for the
object of the attributes. -/
theorem State.nesting_attributes (state : State) :
    nestingMembers ((Value.toJsonEntries state.attributes).map fun entry => (some entry.1, entry.2))
      + 2 ≤ state.document.nesting := by
  have hattributes : state.attributes.toJson.nesting + 1 ≤ state.document.nesting :=
    Nat.succ_le_succ (Nat.le_max_left ..)
  exact hattributes

namespace ResourceFile

/-- Type, name and attributes are found in the document, and nothing else is looked at. -/
theorem fields?_document (state : State) :
    fields? state.document =
      some [some (.text state.address.type), some (.text state.address.name),
        some state.attributes.toJson] := by
  rfl

/-- The attributes are found in their JSON form. -/
theorem attributes?_toJson {attributes : Attributes} (hcanonical : attributes.Canonical)
    (hnesting : nestingMembers
      ((Value.toJsonEntries attributes).map fun entry => (some entry.1, entry.2)) ≤
        nestingLimit - 2) :
    attributes? (some attributes.toJson) = some (Value.toJsonEntries attributes) := by
  have hvalues := Value.membersAreValues_toJson attributes hcanonical.2
  have hread := valueMembers_entries hvalues hnesting
  have hascending : Ascending (Value.toJsonEntries attributes) :=
    Value.ascending_toJsonEntries_iff.2 hcanonical.1
  change (valueMembers _ ((Value.toJsonEntries attributes).map _)).map entriesOf = _
  rw [hread, Option.map_some, entriesOf_of_ascending hascending]

/-- The attributes are read from their documents, one by one. -/
theorem mapM_attributeOf : ∀ {attributes : Attributes}, Value.CanonicalEntries attributes →
    (Value.toJsonEntries attributes).mapM attributeOf = .ok attributes
  | [], _ => rfl
  | (key, value) :: attributes, ⟨hvalue, hattributes⟩ => by
    have hread : attributeOf (key, value.toJson) = .ok (key, value) := by
      rw [attributeOf, Value.ofJson?_toJson value hvalue]
    rw [Value.toJsonEntries, Value.toJsonEntry, List.mapM_cons, hread, mapM_attributeOf hattributes]
    rfl

/-- What the lines that show a state say as a resource file. -/
theorem parse?_lines {state : State} (hcanonical : state.attributes.Canonical)
    (hnesting : state.document.nesting ≤ nestingLimit) :
    parse? state.lines =
      some { address := state.address, attributes := Value.toJsonEntries state.attributes } := by
  have hlevels := state.nesting_attributes
  have hattributes := attributes?_toJson hcanonical (by omega)
  simp only [parse?, state.read?_lines, Option.bind_eq_bind, Option.bind_some, fields?_document,
    hattributes]
  rfl

end ResourceFile

/-- **A state that is shown reads as a resource**: the lines that show a state, whatever its type,
its name, its identifier and its attributes, are the file of a resource with the same type, the same
name and the same attributes, as long as no more than 127 levels nest in them. -/
theorem State.resource_lines (state : State) (hcanonical : state.attributes.Canonical)
    (hnesting : state.document.nesting ≤ 127) :
    ∃ file, ResourceFile.parse? state.lines = some file ∧
      file.resource = .ok { address := state.address, attributes := state.attributes } := by
  refine ⟨_, ResourceFile.parse?_lines hcanonical hnesting, ?_⟩
  rw [ResourceFile.resource, ResourceFile.mapM_attributeOf hcanonical.2]
  rfl

/-- A state with the least number, with a key that has to be escaped and with an empty list deep in
a map. -/
theorem State.resource_lines_escaped :
    let state : State :=
      { address := { type := "private_link_endpoint", name := "main" }
        identifier := some "/subscriptions/s"
        attributes :=
          [("a\"\n", .int (-9223372036854775808)),
           ("b", .list [.map [("", .list []), ("é", .bool true)], .string "\\"])]
        found := true }
    (state.attributes.Canonical ∧ state.document.nesting = 5) ∧
      ∃ file, ResourceFile.parse? state.lines = some file ∧
        file.resource = .ok { address := state.address, attributes := state.attributes } := by
  intro state
  have hcanonical : state.attributes.Canonical := by
    refine ⟨by decide, trivial, ⟨⟨by decide, ?_⟩, trivial, trivial⟩, trivial⟩
    exact ⟨trivial, trivial, trivial⟩
  have hnesting : state.document.nesting = 5 := by decide
  have hfew : state.document.nesting ≤ 127 := by omega
  exact ⟨⟨hcanonical, hnesting⟩, State.resource_lines state hcanonical hfew⟩

end PrivateLink
