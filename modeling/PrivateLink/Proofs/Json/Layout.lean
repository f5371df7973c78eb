import PrivateLink.Proofs.Json.Spelling

/-!
# The text on several lines

The text on several lines puts a new line and indentation between the parts of a document. Wherever
they stand they are white space, so the text is a spelling of the document like the one on a single
line, and the document is read back from it.

* `spells_prettyChars`: the text on several lines is a spelling, at any indentation;
* `read?_pretty`: so a document is read back from it.
-/

namespace PrivateLink.Json

theorem allSpace_lineBreak (level : Nat) : AllSpace (lineBreak level) := by
  intro c hc
  rcases List.mem_cons.1 hc with rfl | hindent
  · decide
  · rw [List.eq_of_mem_replicate hindent]
    decide

theorem allSpace_blank : AllSpace [' '] := by
  intro c hc
  rw [List.mem_singleton.1 hc]
  decide

mutual

/-- The text on several lines spells the document. -/
theorem spells_prettyChars (level : Nat) : ∀ (json : Json), Spellable json →
    Spells json (prettyChars level json)
  | .null, _ => rfl
  | .bool true, _ => rfl
  | .bool false, _ => rfl
  | .number (.whole _), _ => rfl
  | .string (some text), _ => ⟨text, rfl, rfl⟩
  | .array [], _ => ⟨[], allSpace_nil, rfl⟩
  | .array (item :: items), ⟨hitem, hitems⟩ =>
    ⟨_, _, _, allSpace_lineBreak (level + 1), spells_prettyChars (level + 1) item hitem,
      spells_prettyItems level items hitems, by simp [prettyChars]⟩
  | .object [], _ => ⟨[], allSpace_nil, rfl⟩
  | .object (member :: members), ⟨hmember, hmembers⟩ =>
    ⟨_, _, _, allSpace_lineBreak (level + 1), spells_prettyMember (level + 1) member hmember,
      spells_prettyMembers level members hmembers, by simp [prettyChars]⟩

theorem spells_prettyItems (level : Nat) : ∀ (items : List Json), SpellableItems items →
    SpellsItems items (prettyItems level items)
  | [], _ => ⟨_, allSpace_lineBreak level, rfl⟩
  | item :: items, ⟨hitem, hitems⟩ =>
    ⟨[], _, _, _, allSpace_nil, allSpace_lineBreak (level + 1),
      spells_prettyChars (level + 1) item hitem, spells_prettyItems level items hitems,
      by simp [prettyItems]⟩

theorem spells_prettyMembers (level : Nat) : ∀ (members : List (Literal × Json)),
    SpellableMembers members → SpellsMembers members (prettyMembers level members)
  | [], _ => ⟨_, allSpace_lineBreak level, rfl⟩
  | member :: members, ⟨hmember, hmembers⟩ =>
    ⟨[], _, _, _, allSpace_nil, allSpace_lineBreak (level + 1),
      spells_prettyMember (level + 1) member hmember, spells_prettyMembers level members hmembers,
      by simp [prettyMembers]⟩

theorem spells_prettyMember (level : Nat) : ∀ (member : Literal × Json), SpellableMember member →
    SpellsMember member (prettyMember level member)
  | (some name, value), ⟨_, hvalue⟩ =>
    ⟨name, [], [' '], _, rfl, allSpace_nil, allSpace_blank, spells_prettyChars level value hvalue,
      rfl⟩

end

/-- **A document is read back from its text on several lines.** -/
theorem read?_pretty {json : Json} (h : Spellable json) : read? json.pretty = some json := by
  have hspells : Spells json (prettyChars 0 json) := spells_prettyChars 0 json h
  have hread := readChars?_of_spells allSpace_nil hspells allSpace_nil
  simpa [read?, pretty] using hread

end PrivateLink.Json
