import PrivateLink.Proofs.Json.Scalar

/-!
# Spellings of a document

A spelling of a document is a text that writes it, with any white space between its parts. Strings
and whole numbers have the one spelling that the printer gives them; documents with other numbers,
or with a literal that stands for no text, have none (`Spells`).

* `readChars?_of_spells`: every spelling of a document is read as that document;
* `spells_compactChars`: the text on one line is a spelling, if the document has one (`Spellable`);
* `read?_compact`: so a document is read back from its text.
-/

namespace PrivateLink.Json

/-! ### White space -/

/-- The characters are white space. -/
def AllSpace (chars : List Char) : Prop :=
  ∀ c ∈ chars, isSpace c = true

theorem allSpace_nil : AllSpace [] := nofun

theorem skipSpace_append {space : List Char} (h : AllSpace space) (chars : List Char) :
    skipSpace (space ++ chars) = skipSpace chars :=
  List.dropWhile_append_of_pos h

theorem skipSpace_cons {c : Char} (h : isSpace c = false) (chars : List Char) :
    skipSpace (c :: chars) = c :: chars := by
  simp [skipSpace, h]

/-- A number ends where white space or a character that is no part of numbers follows. -/
theorem endsNumber_space {space chars : List Char} (h : AllSpace space)
    (hchars : EndsNumber chars) :
    EndsNumber (space ++ chars) := by
  cases space with
  | nil => exact hchars
  | cons s space =>
    rintro _ ⟨⟩
    have hs : isSpace s = true := h s List.mem_cons_self
    simp only [isSpace, Bool.or_eq_true, beq_iff_eq] at hs
    rcases hs with ((rfl | rfl) | rfl) | rfl <;> decide

/-! ### Spellings -/

mutual

/-- The characters spell the document. -/
def Spells : Json → List Char → Prop
  | .null, chars => chars = ['n', 'u', 'l', 'l']
  | .bool true, chars => chars = ['t', 'r', 'u', 'e']
  | .bool false, chars => chars = ['f', 'a', 'l', 's', 'e']
  | .number (.whole value), chars => chars = wholeChars value
  | .number (.decimal ..), _ => False
  | .string literal, chars => ∃ text, literal = some text ∧ chars = literalChars (some text)
  | .array [], chars => ∃ space, AllSpace space ∧ chars = '[' :: (space ++ [']'])
  | .array (item :: items), chars =>
    ∃ space text tail, AllSpace space ∧ Spells item text ∧ SpellsItems items tail ∧
      chars = '[' :: (space ++ (text ++ tail))
  | .object [], chars => ∃ space, AllSpace space ∧ chars = '{' :: (space ++ ['}'])
  | .object (member :: members), chars =>
    ∃ space text tail, AllSpace space ∧ SpellsMember member text ∧ SpellsMembers members tail ∧
      chars = '{' :: (space ++ (text ++ tail))

/-- The characters spell the items behind another one, up to the closing bracket. -/
def SpellsItems : List Json → List Char → Prop
  | [], chars => ∃ space, AllSpace space ∧ chars = space ++ [']']
  | item :: items, chars =>
    ∃ before after text tail, AllSpace before ∧ AllSpace after ∧ Spells item text ∧
      SpellsItems items tail ∧ chars = before ++ ',' :: (after ++ (text ++ tail))

/-- The characters spell the members behind another one, up to the closing brace. -/
def SpellsMembers : List (Literal × Json) → List Char → Prop
  | [], chars => ∃ space, AllSpace space ∧ chars = space ++ ['}']
  | member :: members, chars =>
    ∃ before after text tail, AllSpace before ∧ AllSpace after ∧ SpellsMember member text ∧
      SpellsMembers members tail ∧ chars = before ++ ',' :: (after ++ (text ++ tail))

/-- The characters spell a name and its value. -/
def SpellsMember : Literal × Json → List Char → Prop
  | (name, value), chars =>
    ∃ known before after text, name = some known ∧ AllSpace before ∧ AllSpace after ∧
      Spells value text ∧ chars = literalChars (some known) ++ (before ++ ':' :: (after ++ text))

end

theorem literalChars_append (text : String) (rest : List Char) :
    literalChars (some text) ++ rest = '"' :: (text.toList.flatMap escapedChar ++ '"' :: rest) := by
  simp [literalChars]

/-- A number is over where the items or members that follow it begin. -/
theorem endsNumber_items {items : List Json} {tail : List Char} (h : SpellsItems items tail)
    (rest : List Char) : EndsNumber (tail ++ rest) := by
  cases items with
  | nil =>
    obtain ⟨space, hspace, rfl⟩ := h
    rw [List.append_assoc]
    exact endsNumber_space hspace (by rintro _ ⟨⟩; decide)
  | cons item items =>
    obtain ⟨before, after, text, tail, hbefore, -, -, -, rfl⟩ := h
    rw [List.append_assoc]
    exact endsNumber_space hbefore (by rintro _ ⟨⟩; decide)

theorem endsNumber_members {members : List (Literal × Json)} {tail : List Char}
    (h : SpellsMembers members tail) (rest : List Char) : EndsNumber (tail ++ rest) := by
  cases members with
  | nil =>
    obtain ⟨space, hspace, rfl⟩ := h
    rw [List.append_assoc]
    exact endsNumber_space hspace (by rintro _ ⟨⟩; decide)
  | cons member members =>
    obtain ⟨before, after, text, tail, hbefore, -, -, -, rfl⟩ := h
    rw [List.append_assoc]
    exact endsNumber_space hbefore (by rintro _ ⟨⟩; decide)

/-! ### Spellings are read -/

/-- The first character of a whole number begins no other document. -/
theorem head_wholeChars (value : Int) : ∃ c chars, wholeChars value = c :: chars ∧
    isSpace c = false ∧ c ≠ ']' ∧ c ≠ 'n' ∧ c ≠ 't' ∧ c ≠ 'f' ∧ c ≠ '"' ∧ c ≠ '[' ∧ c ≠ '{' := by
  unfold wholeChars
  split
  · exact ⟨_, _, rfl, by decide⟩
  · cases hdigits : Nat.toDigits 10 value.natAbs with
    | nil => exact absurd hdigits Nat.toDigits_ne_nil
    | cons c digits =>
      have hdigit : c.isDigit = true := isDigit_of_mem_toDigits (hdigits ▸ List.mem_cons_self)
      refine ⟨c, digits, rfl, ?_, ?_, ?_, ?_, ?_, ?_, ?_, ?_⟩
      · simp only [isSpace, Bool.or_eq_false_iff, beq_eq_false_iff_ne]
        refine ⟨⟨⟨?_, ?_⟩, ?_⟩, ?_⟩ <;> (rintro rfl; exact absurd hdigit (by decide))
      -- None of these characters is a digit.
      all_goals rintro rfl; exact absurd hdigit (by decide)

theorem value?_wholeChars (bound : Nat) {space : List Char} (hspace : AllSpace space) (value : Int)
    {rest : List Char} (hrest : EndsNumber rest) :
    value? (bound + 1) (space ++ (wholeChars value ++ rest)) =
      some (.number (.whole value), rest) := by
  have hread := number?_wholeChars value hrest
  obtain ⟨c, chars, hchars, hc, -, hn, ht, hf, hquote, hbracket, hbrace⟩ := head_wholeChars value
  rw [value?, skipSpace_append hspace]
  rw [hchars, List.cons_append] at hread ⊢
  rw [skipSpace_cons hc]
  split
  -- Only the last case of the reader is left to a number; the head rules out the others.
  case h_7 => rw [hread]; rfl
  all_goals simp_all

/-- A spelling starts with a character that is neither white space nor a closing bracket. -/
theorem Spells.head {json : Json} {chars : List Char} (h : Spells json chars) :
    ∃ c rest, chars = c :: rest ∧ isSpace c = false ∧ c ≠ ']' := by
  cases json with
  | null => cases h; exact ⟨_, _, rfl, by decide⟩
  | bool value => cases value <;> (cases h; exact ⟨_, _, rfl, by decide⟩)
  | number value =>
    cases value with
    | whole value =>
      cases h
      obtain ⟨c, rest, hchars, hc, hbracket, -⟩ := head_wholeChars value
      exact ⟨c, rest, hchars, hc, hbracket⟩
    | decimal => exact absurd h (by simp [Spells])
  | string literal =>
    obtain ⟨text, -, rfl⟩ := h
    exact ⟨_, _, rfl, by decide⟩
  | array items =>
    cases items with
    | nil => obtain ⟨space, -, rfl⟩ := h; exact ⟨_, _, rfl, by decide⟩
    | cons item items => obtain ⟨_, _, _, -, -, -, rfl⟩ := h; exact ⟨_, _, rfl, by decide⟩
  | object members =>
    cases members with
    | nil => obtain ⟨space, -, rfl⟩ := h; exact ⟨_, _, rfl, by decide⟩
    | cons member members => obtain ⟨_, _, _, -, -, -, rfl⟩ := h; exact ⟨_, _, rfl, by decide⟩

theorem SpellsMember.head {member : Literal × Json} {chars : List Char}
    (h : SpellsMember member chars) : ∃ rest, chars = '"' :: rest := by
  obtain ⟨name, value⟩ := member
  obtain ⟨known, before, after, text, -, -, -, -, rfl⟩ := h
  exact ⟨_, literalChars_append _ _⟩

mutual

/-- A spelling is read from the front of a text, with white space before it. -/
theorem value?_of_spells : ∀ (bound : Nat) (json : Json) {space chars rest : List Char},
    AllSpace space → Spells json chars → EndsNumber rest → 2 * chars.length ≤ bound →
    value? bound (space ++ (chars ++ rest)) = some (json, rest)
  | 0, json, _, _, _, _, hspells, _, hbound => by
    -- A spelling is not empty, so the bound cannot be zero.
    obtain ⟨c, tail, rfl, -⟩ := hspells.head
    exact absurd hbound (by simp)
  | bound + 1, .null, space, chars, rest, hspace, hspells, hrest, hbound => by
    cases hspells
    rw [value?, skipSpace_append hspace]
    rfl
  | bound + 1, .bool true, space, chars, rest, hspace, hspells, hrest, hbound => by
    cases hspells
    rw [value?, skipSpace_append hspace]
    rfl
  | bound + 1, .bool false, space, chars, rest, hspace, hspells, hrest, hbound => by
    cases hspells
    rw [value?, skipSpace_append hspace]
    rfl
  | bound + 1, .number (.whole value), space, chars, rest, hspace, hspells, hrest, hbound => by
    cases hspells
    exact value?_wholeChars bound hspace value hrest
  | bound + 1, .string literal, space, chars, rest, hspace, hspells, hrest, hbound => by
    obtain ⟨text, rfl, rfl⟩ := hspells
    rw [value?, skipSpace_append hspace, literalChars_append, skipSpace_cons (by decide)]
    simp [literal?_literalChars]
  | bound + 1, .array [], space, chars, rest, hspace, hspells, hrest, hbound => by
    obtain ⟨inner, hinner, rfl⟩ := hspells
    rw [value?, skipSpace_append hspace, List.cons_append, skipSpace_cons (by decide)]
    simp only [List.append_assoc, skipSpace_append hinner]
    rfl
  | bound + 1, .array (item :: items), space, chars, rest, hspace, hspells, hrest, hbound => by
    obtain ⟨inner, text, tail, hinner, hitem, hitems, rfl⟩ := hspells
    obtain ⟨c, text', htext, hc, hbracket⟩ := hitem.head
    have hread : items? bound (text ++ (tail ++ rest)) = some (item :: items, rest) :=
      items?_of_spells bound item items allSpace_nil hitem hitems (by grind)
    rw [htext, List.cons_append] at hread
    rw [value?, skipSpace_append hspace, List.cons_append, skipSpace_cons (by decide)]
    simp only [List.append_assoc, skipSpace_append hinner, htext, List.cons_append,
      skipSpace_cons hc]
    -- The item does not start with a bracket, so the array is not taken for an empty one.
    split
    · next heq => exact absurd (List.cons.inj heq).1 hbracket
    · rw [hread]
      rfl
  | bound + 1, .object [], space, chars, rest, hspace, hspells, hrest, hbound => by
    obtain ⟨inner, hinner, rfl⟩ := hspells
    rw [value?, skipSpace_append hspace, List.cons_append, skipSpace_cons (by decide)]
    simp only [List.append_assoc, skipSpace_append hinner]
    rfl
  | bound + 1, .object (member :: members), space, chars, rest, hspace, hspells, hrest, hbound => by
    obtain ⟨inner, text, tail, hinner, hmember, hmembers, rfl⟩ := hspells
    have hread : members? bound (text ++ (tail ++ rest)) = some (member :: members, rest) :=
      members?_of_spells bound member members allSpace_nil hmember hmembers (by grind)
    obtain ⟨text', rfl⟩ := hmember.head
    rw [value?, skipSpace_append hspace, List.cons_append, skipSpace_cons (by decide)]
    simp only [List.append_assoc, skipSpace_append hinner, List.cons_append]
    rw [skipSpace_cons (by decide)]
    change (members? bound ('"' :: text' ++ (tail ++ rest))).map _ = _
    rw [hread]
    rfl

/-- The items of an array are read up to its end. -/
theorem items?_of_spells : ∀ (bound : Nat) (item : Json) (items : List Json)
    {space text tail rest : List Char}, AllSpace space → Spells item text →
    SpellsItems items tail → 2 * text.length + 2 * tail.length ≤ bound →
    items? bound (space ++ (text ++ (tail ++ rest))) = some (item :: items, rest)
  | 0, _, _, _, _, _, _, _, hitem, _, hbound => by
    obtain ⟨c, tail, rfl, -⟩ := hitem.head
    exact absurd hbound (by simp)
  | bound + 1, item, [], space, text, tail, rest, hspace, hitem, hitems, hbound => by
    have hends := endsNumber_items hitems rest
    obtain ⟨inner, hinner, rfl⟩ := hitems
    have hread := value?_of_spells bound item hspace hitem hends (by grind)
    rw [items?, hread]
    simp only [Option.bind_eq_bind, Option.bind_some, List.append_assoc, skipSpace_append hinner]
    rfl
  | bound + 1, item, next :: items, space, text, tail, rest, hspace, hitem, hitems, hbound => by
    have hends := endsNumber_items hitems rest
    obtain ⟨before, after, text', tail, hbefore, hafter, hnext, hitems, rfl⟩ := hitems
    have hread := value?_of_spells bound item hspace hitem hends (by grind)
    have htail : items? bound (after ++ (text' ++ (tail ++ rest))) = some (next :: items, rest) :=
      items?_of_spells bound next items hafter hnext hitems (by grind)
    rw [items?, hread]
    simp only [Option.bind_eq_bind, Option.bind_some, List.append_assoc, List.cons_append,
      skipSpace_append hbefore]
    rw [skipSpace_cons (by decide)]
    simp only [htail, Option.map_some]

/-- The members of an object are read up to its end. -/
theorem members?_of_spells : ∀ (bound : Nat) (member : Literal × Json)
    (members : List (Literal × Json)) {space text tail rest : List Char}, AllSpace space →
    SpellsMember member text → SpellsMembers members tail →
    2 * text.length + 2 * tail.length ≤ bound →
    members? bound (space ++ (text ++ (tail ++ rest))) = some (member :: members, rest)
  | 0, _, _, _, _, _, _, _, hmember, _, hbound => by
    obtain ⟨tail, rfl⟩ := hmember.head
    exact absurd hbound (by simp)
  | bound + 1, (name, value), members, space, text, tail, rest, hspace, hmember, hmembers,
    hbound => by
    have hends := endsNumber_members hmembers rest
    obtain ⟨known, before, after, text, rfl, hbefore, hafter, hvalue, rfl⟩ := hmember
    have hread := value?_of_spells bound value hafter hvalue hends (by grind)
    rw [members?, skipSpace_append hspace, List.append_assoc, literalChars_append,
      skipSpace_cons (by decide)]
    simp only [literal?_literalChars, Option.bind_eq_bind, Option.bind_some, List.append_assoc,
      List.cons_append, skipSpace_append hbefore]
    rw [skipSpace_cons (by decide)]
    simp only [hread, Option.bind_some]
    cases members with
    | nil =>
      obtain ⟨inner, hinner, rfl⟩ := hmembers
      simp only [List.append_assoc, skipSpace_append hinner]
      rfl
    | cons member members =>
      obtain ⟨before', after', text', tail, hbefore', hafter', hnext, hmembers, rfl⟩ := hmembers
      have htail : members? bound (after' ++ (text' ++ (tail ++ rest))) =
          some (member :: members, rest) :=
        members?_of_spells bound member members hafter' hnext hmembers (by grind)
      simp only [List.append_assoc, List.cons_append, skipSpace_append hbefore']
      rw [skipSpace_cons (by decide)]
      simp only [htail, Option.map_some]

end

/-- **Reading.** Every spelling of a document, with white space around it, is read as the
document. -/
theorem readChars?_of_spells {json : Json} {before chars after : List Char}
    (hbefore : AllSpace before) (hspells : Spells json chars) (hafter : AllSpace after) :
    readChars? (before ++ (chars ++ after)) = some json := by
  have hends : EndsNumber after := by
    simpa using endsNumber_space hafter endsNumber_nil
  rw [readChars?, value?_of_spells _ json hbefore hspells hends (by grind)]
  have hempty : skipSpace after = [] := by
    have happend := skipSpace_append hafter []
    rwa [List.append_nil] at happend
  simp [hempty]

/-! ### The text on one line -/

mutual

/-- Every literal of the document stands for a text, and every number is whole. -/
def Spellable : Json → Prop
  | .null | .bool _ | .number (.whole _) => True
  | .number (.decimal ..) => False
  | .string literal => literal.isSome
  | .array items => SpellableItems items
  | .object members => SpellableMembers members

/-- Every item is spellable. -/
def SpellableItems : List Json → Prop
  | [] => True
  | item :: items => Spellable item ∧ SpellableItems items

/-- Every member is spellable. -/
def SpellableMembers : List (Literal × Json) → Prop
  | [] => True
  | member :: members => SpellableMember member ∧ SpellableMembers members

/-- The name stands for a text and the value is spellable. -/
def SpellableMember : Literal × Json → Prop
  | (name, value) => name.isSome ∧ Spellable value

end

theorem spellableItems_iff {items : List Json} :
    SpellableItems items ↔ ∀ item ∈ items, item.Spellable := by
  induction items with
  | nil => simp [SpellableItems]
  | cons item items ih => simp [SpellableItems, ih]

theorem spellableMembers_iff {members : List (Literal × Json)} :
    SpellableMembers members ↔ ∀ member ∈ members, member.1.isSome ∧ member.2.Spellable := by
  induction members with
  | nil => simp [SpellableMembers]
  | cons member members ih =>
    obtain ⟨name, value⟩ := member
    simp [SpellableMembers, SpellableMember, ih]

mutual

/-- The text on one line spells the document. -/
theorem spells_compactChars : ∀ (json : Json), Spellable json → Spells json (compactChars json)
  | .null, _ => rfl
  | .bool true, _ => rfl
  | .bool false, _ => rfl
  | .number (.whole _), _ => rfl
  | .string (some text), _ => ⟨text, rfl, rfl⟩
  | .array [], _ => ⟨[], allSpace_nil, rfl⟩
  | .array (item :: items), ⟨hitem, hitems⟩ =>
    ⟨[], _, _, allSpace_nil, spells_compactChars item hitem, spells_compactItems items hitems, rfl⟩
  | .object [], _ => ⟨[], allSpace_nil, rfl⟩
  | .object (member :: members), ⟨hmember, hmembers⟩ =>
    ⟨[], _, _, allSpace_nil, spells_compactMember member hmember,
      spells_compactMembers members hmembers, rfl⟩

theorem spells_compactItems : ∀ (items : List Json), SpellableItems items →
    SpellsItems items (compactItems items)
  | [], _ => ⟨[], allSpace_nil, rfl⟩
  | item :: items, ⟨hitem, hitems⟩ =>
    ⟨[], [], _, _, allSpace_nil, allSpace_nil, spells_compactChars item hitem,
      spells_compactItems items hitems, rfl⟩

theorem spells_compactMembers : ∀ (members : List (Literal × Json)), SpellableMembers members →
    SpellsMembers members (compactMembers members)
  | [], _ => ⟨[], allSpace_nil, rfl⟩
  | member :: members, ⟨hmember, hmembers⟩ =>
    ⟨[], [], _, _, allSpace_nil, allSpace_nil, spells_compactMember member hmember,
      spells_compactMembers members hmembers, rfl⟩

theorem spells_compactMember : ∀ (member : Literal × Json), SpellableMember member →
    SpellsMember member (compactMember member)
  | (some name, value), ⟨_, hvalue⟩ =>
    ⟨name, [], [], _, rfl, allSpace_nil, allSpace_nil, spells_compactChars value hvalue, rfl⟩

end

/-- A document is read back from its text on one line. -/
theorem read?_compact {json : Json} (h : Spellable json) : read? json.compact = some json := by
  have hread := readChars?_of_spells allSpace_nil (spells_compactChars json h) allSpace_nil
  simpa [read?, compact] using hread

end PrivateLink.Json
