import PrivateLink.Proofs.Catalogue.Admission

/-!
# Conformance to a type

Which values a type accepts, said by rules that do not mention the check: one for each kind of
scalar, one for custom types, lists, maps and blocks each. A block asks of every declared field what
the declaration asks (`Meets`) and leaves all other keys of the map free. The rules hold for entries
in any order, whether their keys ascend or not.

* `ValueType.check_eq_ok_iff`: the check of a type accepts what conforms and nothing else;
* `ValueType.accepts_exactly_conforming`: so does the check of a type, and that of a schema.
-/

namespace PrivateLink

/-- The value is no list with more items than the bound allows. -/
def Value.FitsWithin (maxItems : Option Nat) (value : Value) : Prop :=
  ∀ most items, maxItems = some most → value = .list items → items.length ≤ most

namespace ValueType

/-! ### The rules -/

mutual

/-- The value conforms to the type. -/
inductive Conforms : ValueType → Value → Prop
  | string (text : String) : Conforms .string (.string text)
  | int (number : Int64) : Conforms .int (.int number)
  | bool (flag : Bool) : Conforms .bool (.bool flag)
  | custom {name : String} {base : ValueType} {accepts : Value → Except String Unit}
      {value : Value} (hbase : Conforms base value) (haccepts : accepts value = .ok ()) :
      Conforms (.custom name base accepts) value
  | list {item : ValueType} {items : List Value} (hitems : ∀ found ∈ items, Conforms item found) :
      Conforms (.list item) (.list items)
  | map {item : ValueType} {entries : List (String × Value)}
      (hentries : ∀ entry ∈ entries, Conforms item entry.2) : Conforms (.map item) (.map entries)
  | block {fields : List (DeclarationOf ValueType)} {entries : List (String × Value)}
      (hfields : ∀ field ∈ fields, Meets field (entries.lookup field.name)) :
      Conforms (.block fields) (.map entries)

/-- What is given for the declared attribute, if anything is, is as declared. -/
inductive Meets : DeclarationOf ValueType → Option Value → Prop
  | absent {field : DeclarationOf ValueType} (hrequired : field.required = false) :
      Meets field none
  | given {field : DeclarationOf ValueType} {value : Value} (hcomputed : field.computed = false)
      (hfits : value.FitsWithin field.maxItems) (hconforms : Conforms field.type value) :
      Meets field (some value)

end

variable {value : Value} {field : Declaration} {fields : List Declaration}
  {attributes : Attributes}

theorem conforms_custom_iff {name : String} {base : ValueType}
    {accepts : Value → Except String Unit} :
    Conforms (.custom name base accepts) value ↔ Conforms base value ∧ accepts value = .ok () := by
  constructor
  · intro h
    cases h with
    | custom hbase haccepts => exact ⟨hbase, haccepts⟩
  · rintro ⟨hbase, haccepts⟩
    exact .custom hbase haccepts

theorem conforms_list_iff {item : ValueType} :
    Conforms (.list item) value ↔
      ∃ items, value = .list items ∧ ∀ found ∈ items, Conforms item found := by
  constructor
  · intro h
    cases h with
    | list hitems => exact ⟨_, rfl, hitems⟩
  · rintro ⟨items, rfl, hitems⟩
    exact .list hitems

theorem conforms_map_iff {item : ValueType} :
    Conforms (.map item) value ↔
      ∃ entries, value = .map entries ∧ ∀ entry ∈ entries, Conforms item entry.2 := by
  constructor
  · intro h
    cases h with
    | map hentries => exact ⟨_, rfl, hentries⟩
  · rintro ⟨entries, rfl, hentries⟩
    exact .map hentries

theorem conforms_block_iff :
    Conforms (.block fields) value ↔
      ∃ entries, value = .map entries ∧
        ∀ field ∈ fields, Meets field (entries.lookup field.name) := by
  constructor
  · intro h
    cases h with
    | block hfields => exact ⟨_, rfl, hfields⟩
  · rintro ⟨entries, rfl, hfields⟩
    exact .block hfields

theorem meets_none_iff : Meets field none ↔ field.required = false := by
  constructor
  · intro h
    cases h with
    | absent hrequired => exact hrequired
  · exact .absent

theorem meets_some_iff :
    Meets field (some value) ↔
      field.computed = false ∧ value.FitsWithin field.maxItems ∧ Conforms field.type value := by
  constructor
  · intro h
    cases h with
    | given hcomputed hfits hconforms => exact ⟨hcomputed, hfits, hconforms⟩
  · rintro ⟨hcomputed, hfits, hconforms⟩
    exact .given hcomputed hfits hconforms

/-! ### The check goes by the rules -/

theorem excess?_eq_none_iff {maxItems : Option Nat} :
    excess? maxItems value = none ↔ value.FitsWithin maxItems := by
  constructor
  · rintro hexcess most items rfl rfl
    refine Nat.le_of_not_lt fun hmany => ?_
    rw [excess?, if_pos hmany] at hexcess
    cases hexcess
  · intro hfits
    unfold excess?
    split
    next most items => exact if_neg (Nat.not_lt.2 (hfits most items rfl rfl))
    next => rfl

mutual

/-- **A type accepts what conforms to it and nothing else.** -/
theorem check_eq_ok_iff : ∀ (type : ValueType) {value : Value},
    check type value = .ok () ↔ Conforms type value
  | .string, value => by
    cases value with
    | string text => exact iff_of_true rfl (.string text)
    | _ => exact iff_of_false nofun nofun
  | .int, value => by
    cases value with
    | int number => exact iff_of_true rfl (.int number)
    | _ => exact iff_of_false nofun nofun
  | .bool, value => by
    cases value with
    | bool flag => exact iff_of_true rfl (.bool flag)
    | _ => exact iff_of_false nofun nofun
  | .custom name base accepts, value => by
    rw [check_custom_iff, conforms_custom_iff, check_eq_ok_iff base]
  | .list item, value => by
    rw [check_list_iff, conforms_list_iff]
    simp only [check_eq_ok_iff item]
  | .map item, value => by
    rw [check_map_iff, conforms_map_iff]
    simp only [check_eq_ok_iff item]
  | .block fields, value => by
    rw [check_block_iff, conforms_block_iff]
    simp only [violations_eq_nil_iff_meets fields]

theorem violations_eq_nil_iff_meets : ∀ (fields : List (DeclarationOf ValueType))
    {attributes : Attributes},
    violations fields attributes = [] ↔ ∀ field ∈ fields, Meets field (attributes.lookup field.name)
  | [], _ => iff_of_true rfl (List.forall_mem_nil _)
  | field :: fields, attributes => by
    rw [List.forall_mem_cons, ← violation?_eq_none_iff_meets field,
      ← violations_eq_nil_iff_meets fields, violations]
    cases violation? field (attributes.lookup field.name) with
    | none => exact (and_iff_right rfl).symm
    | some found => exact iff_of_false nofun nofun

/-- A declaration finds no fault with what is as declared. -/
theorem violation?_eq_none_iff_meets : ∀ (field : DeclarationOf ValueType) {found : Option Value},
    violation? field found = none ↔ Meets field found
  | ⟨name, type, required, computed, forceNew, maxItems, description⟩, none => by
    rw [violation?_eq_none_iff, meets_none_iff]
    simp
  | ⟨name, type, required, computed, forceNew, maxItems, description⟩, some value => by
    simp only [violation?_eq_none_iff, meets_some_iff, excess?_eq_none_iff, check_eq_ok_iff type,
      reduceCtorEq, false_implies, true_and, Option.some.injEq, forall_eq']

end

instance (field : Declaration) (found : Option Value) : Decidable (Meets field found) :=
  decidable_of_iff ((violation? field found).isNone = true)
    (Option.isNone_iff_eq_none.trans (violation?_eq_none_iff_meets field))

end ValueType

/-- **Types and schemas accept what conforms to them and nothing else**: a value of whatever kind,
at whatever depth, is accepted by a type when it conforms to the type; attributes violate nothing in
a schema when, as a map, they conform to the block of its declarations. -/
theorem ValueType.accepts_exactly_conforming :
    (∀ (type : ValueType) (value : Value), check type value = .ok () ↔ Conforms type value) ∧
      ∀ (schema : Schema) (attributes : Attributes),
        schema.violations attributes = [] ↔
          Conforms (.block schema.declarations) (.map attributes) := by
  refine ⟨fun type value => check_eq_ok_iff type, fun schema attributes => ?_⟩
  rw [Schema.violations, violations_eq_nil_iff_meets, conforms_block_iff]
  constructor
  · intro hfields
    exact ⟨attributes, rfl, hfields⟩
  · rintro ⟨_, ⟨⟩, hfields⟩
    exact hfields

end PrivateLink
