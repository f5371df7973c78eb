import Mathlib.Data.List.Forall2
import PrivateLink.Proofs.Attribute.Conformance
import PrivateLink.Proofs.Attribute.Schema

/-!
# What violations say

A violation is the truth about a value: `Fails` and `Breaks` say by rules which violation a value
that does not conform to a type, or that is not as declared, may give rise to. Lists and maps give
the violation of one member, a list that of the first one at fault. Blocks and schemas give one
violation for each declaration that is not kept, in the order of the declarations.

The names, indices and keys in a violation are a path from the root to the fault. What the violation
says at the end of the path, or anywhere on it, is true of the part of the value to which the path
leads there.

* `ValueType.fails_of_check`, `ValueType.forall₂_violations`: the check goes by the rules;
* `ValueType.Has.exists_reaches`: paths lead to parts of the value, and to what is true of them;
* `Schema.violations_truthful`: both of these for schemas.
-/

namespace PrivateLink

namespace ValueType

/-! ### The rules -/

/-- The value is of the kind that the type is made for. A custom type is made for every kind. -/
def TakesKind : ValueType → Value → Prop
  | .string, .string _ | .int, .int _ | .bool, .bool _ | .list _, .list _ | .map _, .map _
  | .block _, .map _ | .custom .., _ => True
  | _, _ => False

/-- The declarations that the attributes do not keep, in their order. -/
def broken (fields : List (DeclarationOf ValueType)) (attributes : Attributes) :
    List (DeclarationOf ValueType) :=
  fields.filter fun field => ¬ Meets field (attributes.lookup field.name)

mutual

/-- The value fails the type in the way that the violation says. -/
inductive Fails : ValueType → Value → Violation → Prop
  | mismatch {type : ValueType} {value : Value} (hkind : ¬ type.TakesKind value) :
      Fails type value (.mismatch type.name value.kindName)
  | base {name : String} {base : ValueType} {accepts : Value → Except String Unit} {value : Value}
      {violation : Violation} (hbase : Fails base value violation) :
      Fails (.custom name base accepts) value violation
  | rejected {name : String} {base : ValueType} {accepts : Value → Except String Unit}
      {value : Value} {reason : String} (hbase : Conforms base value)
      (haccepts : accepts value = .error reason) :
      Fails (.custom name base accepts) value (.rejected reason)
  | item {item : ValueType} {items : List Value} {index : Nat} {found : Value}
      {violation : Violation} (hearlier : ∀ earlier ∈ items.take index, Conforms item earlier)
      (hfound : items[index]? = some found) (hfails : Fails item found violation) :
      Fails (.list item) (.list items) (.item index violation)
  | entry {item : ValueType} {entries : List (String × Value)} {key : String} {found : Value}
      {violation : Violation} (hfound : (key, found) ∈ entries)
      (hfails : Fails item found violation) :
      Fails (.map item) (.map entries) (.entry key violation)
  | block {fields : List (DeclarationOf ValueType)} {entries : List (String × Value)}
      {violations : List Violation} (hsome : violations ≠ [])
      (hcount : (broken fields entries).length = violations.length)
      (heach : ∀ pair ∈ (broken fields entries).zip violations,
        Breaks pair.1 (entries.lookup pair.1.name) pair.2) :
      Fails (.block fields) (.map entries) (.block violations)

/-- What is given for the declared attribute, if anything is, breaks the declaration in the way that
the violation says. -/
inductive Breaks : DeclarationOf ValueType → Option Value → Violation → Prop
  | missing {field : DeclarationOf ValueType} (hrequired : field.required = true) :
      Breaks field none (.missing field.name)
  | computed {field : DeclarationOf ValueType} {value : Value} (hcomputed : field.computed = true) :
      Breaks field (some value) (.computed field.name)
  | tooMany {field : DeclarationOf ValueType} {most : Nat} {items : List Value}
      (hcomputed : field.computed = false) (hmost : field.maxItems = some most)
      (hmany : most < items.length) :
      Breaks field (some (.list items)) (.tooMany field.name most items.length)
  | attribute {field : DeclarationOf ValueType} {value : Value} {violation : Violation}
      (hcomputed : field.computed = false) (hfits : value.FitsWithin field.maxItems)
      (hfails : Fails field.type value violation) :
      Breaks field (some value) (.attribute field.name violation)

end

variable {type : ValueType} {value : Value} {violation : Violation} {field : Declaration}
  {fields : List Declaration} {attributes : Attributes}

/-! ### What fails does not conform -/

theorem not_conforms_of_fails : ∀ (type : ValueType) {value : Value} {violation : Violation},
    Fails type value violation → ¬ Conforms type value
  | .string, _, _, .mismatch hkind, .string _ => hkind trivial
  | .int, _, _, .mismatch hkind, .int _ => hkind trivial
  | .bool, _, _, .mismatch hkind, .bool _ => hkind trivial
  | .custom .., _, _, .mismatch hkind, _ => hkind trivial
  | .custom _ base _, _, _, .base hbase, .custom hconforms _ =>
    not_conforms_of_fails base hbase hconforms
  | .custom .., _, _, .rejected _ hreason, .custom _ haccepts => by
    rw [haccepts] at hreason
    cases hreason
  | .list _, _, _, .mismatch hkind, .list _ => hkind trivial
  | .list item, _, _, .item _ hfound hfails, .list hitems =>
    not_conforms_of_fails item hfails (hitems _ (List.mem_of_getElem? hfound))
  | .map _, _, _, .mismatch hkind, .map _ => hkind trivial
  | .map item, _, _, .entry hfound hfails, .map hentries =>
    not_conforms_of_fails item hfails (hentries _ hfound)
  | .block _, _, _, .mismatch hkind, .block _ => hkind trivial
  | .block fields, _, _, .block hsome hcount _, .block hfields => by
    -- Where every declaration is kept there is none to give a violation.
    have hnone : broken fields _ = [] :=
      List.filter_eq_nil_iff.2 fun field hfield => by simpa using hfields field hfield
    rw [hnone] at hcount
    exact hsome (List.eq_nil_of_length_eq_zero hcount.symm)

theorem not_meets_of_breaks {found : Option Value} (h : Breaks field found violation) :
    ¬ Meets field found := by
  intro hmeets
  cases h with
  | missing hrequired =>
    rw [meets_none_iff, hrequired] at hmeets
    cases hmeets
  | computed hcomputed =>
    rw [meets_some_iff, hcomputed] at hmeets
    cases hmeets.1
  | tooMany _ hmost hmany =>
    obtain ⟨-, hfits, -⟩ := meets_some_iff.1 hmeets
    exact absurd (hfits _ _ hmost rfl) (Nat.not_le.2 hmany)
  | «attribute» _ _ hfails =>
    obtain ⟨-, -, hconforms⟩ := meets_some_iff.1 hmeets
    exact not_conforms_of_fails _ hfails hconforms

/-! ### The check goes by the rules -/

/-- The violation of a list is that of the first item at fault. -/
theorem exists_of_checkItems_eq_error {check : Value → Except Violation Unit} {items : List Value}
    {index : Nat} (h : checkItems check index items = .error violation) :
    ∃ place found inner, items[place]? = some found ∧
      (∀ earlier ∈ items.take place, check earlier = .ok ()) ∧ check found = .error inner ∧
        violation = .item (index + place) inner := by
  induction items generalizing index with
  | nil => cases h
  | cons item items ih =>
    rw [checkItems] at h
    cases hcheck : check item with
    | error inner =>
      rw [hcheck] at h
      cases h
      exact ⟨0, item, inner, rfl, List.forall_mem_nil _, hcheck, rfl⟩
    | ok =>
      rw [hcheck] at h
      obtain ⟨place, found, inner, hfound, hearlier, herror, rfl⟩ := ih h
      refine ⟨place + 1, found, inner, hfound, ?_, herror, ?_⟩
      · exact List.forall_mem_cons.2 ⟨hcheck, hearlier⟩
      · rw [Nat.add_right_comm, Nat.add_assoc]

/-- The violation of a map is that of an entry at fault. -/
theorem exists_of_checkEntries_eq_error {check : Value → Except Violation Unit}
    (h : checkEntries check attributes = .error violation) :
    ∃ key found inner, (key, found) ∈ attributes ∧ check found = .error inner ∧
      violation = .entry key inner := by
  induction attributes with
  | nil => cases h
  | cons entry entries ih =>
    rw [checkEntries] at h
    cases hcheck : check entry.2 with
    | error inner =>
      rw [hcheck] at h
      cases h
      exact ⟨entry.1, entry.2, inner, List.mem_cons_self, hcheck, rfl⟩
    | ok =>
      rw [hcheck] at h
      obtain ⟨key, found, inner, hmem, herror, rfl⟩ := ih h
      exact ⟨key, found, inner, List.mem_cons_of_mem _ hmem, herror, rfl⟩

/-- The bound and the number of items that are reported are those of the list. -/
theorem exists_of_excess?_eq_some {maxItems : Option Nat} {excess : Nat × Nat}
    (h : excess? maxItems value = some excess) :
    ∃ items, value = .list items ∧ maxItems = some excess.1 ∧ excess.2 = items.length ∧
      excess.1 < items.length := by
  unfold excess? at h
  split at h
  next most items =>
    obtain ⟨hmany, ⟨⟩⟩ := Option.ite_none_right_eq_some.1 h
    exact ⟨items, rfl, rfl, rfl, hmany⟩
  next => cases h

mutual

/-- **A type reports only what the value fails it by.** -/
theorem fails_of_check : ∀ (type : ValueType) {value : Value} {violation : Violation},
    check type value = .error violation → Fails type value violation
  | .string, value, violation, h => by
    cases value <;> cases h <;> exact .mismatch nofun
  | .int, value, violation, h => by
    cases value <;> cases h <;> exact .mismatch nofun
  | .bool, value, violation, h => by
    cases value <;> cases h <;> exact .mismatch nofun
  | .custom name base accepts, value, violation, h => by
    rw [check] at h
    cases hbase : check base value with
    | error inner =>
      rw [hbase] at h
      cases h
      exact .base (fails_of_check base hbase)
    | ok =>
      rw [hbase] at h
      cases haccepts : accepts value with
      | error reason =>
        rw [haccepts] at h
        cases h
        exact .rejected ((check_eq_ok_iff base).1 hbase) haccepts
      | ok =>
        rw [haccepts] at h
        cases h
  | .list item, .list items, violation, h => by
    obtain ⟨place, found, inner, hfound, hearlier, herror, rfl⟩ := exists_of_checkItems_eq_error h
    rw [Nat.zero_add]
    exact .item (fun earlier hmem => (check_eq_ok_iff item).1 (hearlier earlier hmem)) hfound
      (fails_of_check item herror)
  | .map item, .map entries, violation, h => by
    obtain ⟨key, found, inner, hmem, herror, rfl⟩ := exists_of_checkEntries_eq_error h
    exact .entry hmem (fails_of_check item herror)
  | .block fields, .map entries, violation, h => by
    obtain ⟨hcount, heach⟩ :=
      List.forall₂_iff_zip.1 (forall₂_violations fields entries)
    rw [check] at h
    cases hfound : violations fields entries with
    | nil =>
      rw [hfound] at h
      cases h
    | cons first others =>
      rw [hfound] at h hcount heach
      cases h
      exact .block (List.cons_ne_nil _ _) hcount fun pair hpair => heach hpair
  | .list _, .string _, _, h | .list _, .int _, _, h | .list _, .bool _, _, h
  | .list _, .map _, _, h | .map _, .string _, _, h | .map _, .int _, _, h | .map _, .bool _, _, h
  | .map _, .list _, _, h | .block _, .string _, _, h | .block _, .int _, _, h
  | .block _, .bool _, _, h | .block _, .list _, _, h => by
    cases h
    exact .mismatch nofun

/-- **There is one violation for each declaration that is not kept**, in the order of the
declarations, and it says how the declaration is broken. -/
theorem forall₂_violations : ∀ (fields : List (DeclarationOf ValueType)) (attributes : Attributes),
    List.Forall₂ (fun field violation => Breaks field (attributes.lookup field.name) violation)
      (broken fields attributes) (violations fields attributes)
  | [], _ => .nil
  | field :: fields, attributes => by
    have hrest := forall₂_violations fields attributes
    have hmeets : violation? field (attributes.lookup field.name) = none ↔
        Meets field (attributes.lookup field.name) := violation?_eq_none_iff_meets field
    rw [broken, violations]
    cases hfound : violation? field (attributes.lookup field.name) with
    | none =>
      rw [List.filter_cons_of_neg (by simpa using hmeets.1 hfound)]
      exact hrest
    | some found =>
      have hnot : ¬ Meets field (attributes.lookup field.name) := by
        rw [← hmeets, hfound]
        exact nofun
      rw [List.filter_cons_of_pos (by simpa using hnot)]
      exact .cons (breaks_of_violation? field hfound) hrest

/-- A declaration reports only what breaks it. -/
theorem breaks_of_violation? : ∀ (field : DeclarationOf ValueType) {found : Option Value}
    {violation : Violation}, violation? field found = some violation → Breaks field found violation
  | ⟨name, type, required, computed, forceNew, maxItems, description⟩, none, violation, h => by
    rw [violation?] at h
    split at h
    next hrequired =>
      cases h
      exact .missing hrequired
    next => cases h
  | ⟨name, type, required, computed, forceNew, maxItems, description⟩, some value, _, h => by
    rw [violation?] at h
    split at h
    next hcomputed =>
      cases h
      exact .computed hcomputed
    next hcomputed =>
      have hgiven : computed = false := Bool.eq_false_iff.2 hcomputed
      cases hexcess : excess? maxItems value with
      | some excess =>
        rw [hexcess] at h
        cases h
        obtain ⟨items, rfl, hmost, hlength, hmany⟩ := exists_of_excess?_eq_some hexcess
        rw [hlength]
        exact .tooMany hgiven hmost hmany
      | none =>
        rw [hexcess] at h
        cases hcheck : check type value with
        | error inner =>
          rw [hcheck] at h
          cases h
          exact .attribute hgiven (excess?_eq_none_iff.1 hexcess) (fails_of_check type hcheck)
        | ok =>
          rw [hcheck] at h
          cases h

end

end ValueType

/-! ### Paths -/

/-- One step on the way to a part of a value. -/
inductive Place where
  | attribute (name : String)
  | item (index : Nat)
  | entry (key : String)

/-- The violation says, at the end of the path, what the other one says. A block adds nothing to the
path. -/
inductive Violation.Leads : Violation → List Place → Violation → Prop
  | here {violation : Violation} : Leads violation [] violation
  | attribute {name : String} {inner part : Violation} {path : List Place}
      (hinner : Leads inner path part) :
      Leads (.attribute name inner) (.attribute name :: path) part
  | item {index : Nat} {inner part : Violation} {path : List Place}
      (hinner : Leads inner path part) : Leads (.item index inner) (.item index :: path) part
  | entry {key : String} {inner part : Violation} {path : List Place}
      (hinner : Leads inner path part) : Leads (.entry key inner) (.entry key :: path) part
  | block {violations : List Violation} {inner part : Violation} {path : List Place}
      (hmem : inner ∈ violations) (hinner : Leads inner path part) :
      Leads (.block violations) path part

namespace ValueType

/-- The path leads from the value to the part of it, and from the type to the type of that part. -/
inductive Reaches : ValueType → Value → List Place → ValueType → Value → Prop
  | here {type : ValueType} {value : Value} : Reaches type value [] type value
  | base {name : String} {base type : ValueType} {accepts : Value → Except String Unit}
      {value part : Value} {path : List Place} (hbase : Reaches base value path type part) :
      Reaches (.custom name base accepts) value path type part
  | item {item type : ValueType} {items : List Value} {index : Nat} {found part : Value}
      {path : List Place} (hfound : items[index]? = some found)
      (hrest : Reaches item found path type part) :
      Reaches (.list item) (.list items) (.item index :: path) type part
  | entry {item type : ValueType} {entries : List (String × Value)} {key : String}
      {found part : Value} {path : List Place} (hfound : (key, found) ∈ entries)
      (hrest : Reaches item found path type part) :
      Reaches (.map item) (.map entries) (.entry key :: path) type part
  | attribute {fields : List Declaration} {field : Declaration} {type : ValueType}
      {entries : List (String × Value)} {found part : Value} {path : List Place}
      (hfield : field ∈ fields) (hfound : entries.lookup field.name = some found)
      (hrest : Reaches field.type found path type part) :
      Reaches (.block fields) (.map entries) (.attribute field.name :: path) type part

/-- The violation is true of the value: the value fails the type by it, or it breaks a declaration
of the block by it. -/
inductive Has : ValueType → Value → Violation → Prop
  | fails {type : ValueType} {value : Value} {violation : Violation}
      (hfails : Fails type value violation) : Has type value violation
  | breaks {fields : List Declaration} {field : Declaration} {entries : List (String × Value)}
      {found : Option Value} {violation : Violation} (hfield : field ∈ fields)
      (hfound : entries.lookup field.name = found) (hbreaks : Breaks field found violation) :
      Has (.block fields) (.map entries) violation

theorem Has.not_conforms (h : Has type value violation) : ¬ Conforms type value := by
  cases h with
  | fails hfails => exact not_conforms_of_fails type hfails
  | breaks hfield hfound hbreaks =>
    intro hconforms
    obtain ⟨_, ⟨⟩, hmeets⟩ := conforms_block_iff.1 hconforms
    exact not_meets_of_breaks hbreaks (hfound ▸ hmeets _ hfield)

/-! ### Paths lead to parts of the value -/

variable {inner part : Violation}

/-- The type is not a custom one. -/
def IsPlain : ValueType → Prop
  | .custom .. => False
  | _ => True

/-- A custom type takes over the violations of its base, so a violation that is not the refusal of a
custom type is that of a plain type, which describes the same value. -/
theorem exists_plain_of_fails : ∀ (type : ValueType) {value : Value} {violation : Violation},
    Fails type value violation → (∀ reason, violation ≠ .rejected reason) →
      ∃ plain : ValueType, Fails plain value violation ∧ plain.IsPlain ∧
        ∀ {path goal rest}, Reaches plain value path goal rest → Reaches type value path goal rest
  | .custom .., _, _, .mismatch hkind, _ => (hkind trivial).elim
  | .custom .., _, _, .rejected .., hother => (hother _ rfl).elim
  | .custom _ base _, _, _, .base hbase, hother => by
    obtain ⟨plain, hfails, hplain, hreaches⟩ := exists_plain_of_fails base hbase hother
    exact ⟨plain, hfails, hplain, fun hrest => .base (hreaches hrest)⟩
  | .string, _, _, h, _ | .int, _, _, h, _ | .bool, _, _, h, _ | .list _, _, _, h, _
  | .map _, _, _, h, _ | .block _, _, _, h, _ => ⟨_, h, trivial, id⟩

/-- Each violation in a row of them says how one of the declarations is broken. -/
theorem exists_breaks_of_mem {inners : List Violation}
    (h : List.Forall₂ (fun field violation => Breaks field (attributes.lookup field.name) violation)
      (broken fields attributes) inners) (hinner : inner ∈ inners) :
    ∃ field ∈ fields, Breaks field (attributes.lookup field.name) inner := by
  obtain ⟨place, hplace, rfl⟩ := List.mem_iff_getElem.1 hinner
  have hlength : (broken fields attributes).length = inners.length := h.length_eq
  have hfield : (broken fields attributes)[place] ∈ broken fields attributes :=
    List.getElem_mem (hlength ▸ hplace)
  exact ⟨_, List.mem_of_mem_filter hfield, h.get _ hplace⟩

/-- **What a violation says at the end of a path is true of the part of the value to which the path
leads.** -/
theorem Has.exists_reaches {path : List Place} (hleads : violation.Leads path part)
    (h : Has type value violation) :
    ∃ goal rest, Reaches type value path goal rest ∧ Has goal rest part := by
  induction hleads generalizing type value with
  | here => exact ⟨type, value, .here, h⟩
  | «attribute» _ ih =>
    cases h with
    | fails hfails =>
      -- The fault of an attribute is that of a declaration, never of a type.
      obtain ⟨plain, hfault, hplain, -⟩ := exists_plain_of_fails type hfails nofun
      cases hfault with
      | base => exact hplain.elim
    | breaks hfield hfound hbreaks =>
      cases hbreaks with
      | «attribute» _ _ hfault =>
        obtain ⟨goal, rest, hrest, hhas⟩ := ih (.fails hfault)
        exact ⟨goal, rest, .attribute hfield hfound hrest, hhas⟩
  | item _ ih =>
    cases h with
    | fails hfails =>
      obtain ⟨plain, hfault, hplain, hreaches⟩ := exists_plain_of_fails type hfails nofun
      cases hfault with
      | base => exact hplain.elim
      | item _ hfound hitem =>
        obtain ⟨goal, rest, hrest, hhas⟩ := ih (.fails hitem)
        exact ⟨goal, rest, hreaches (.item hfound hrest), hhas⟩
    | breaks _ _ hbreaks => cases hbreaks
  | entry _ ih =>
    cases h with
    | fails hfails =>
      obtain ⟨plain, hfault, hplain, hreaches⟩ := exists_plain_of_fails type hfails nofun
      cases hfault with
      | base => exact hplain.elim
      | entry hfound hentry =>
        obtain ⟨goal, rest, hrest, hhas⟩ := ih (.fails hentry)
        exact ⟨goal, rest, hreaches (.entry hfound hrest), hhas⟩
    | breaks _ _ hbreaks => cases hbreaks
  | block hmem _ ih =>
    cases h with
    | fails hfails =>
      obtain ⟨plain, hfault, hplain, hreaches⟩ := exists_plain_of_fails type hfails nofun
      cases hfault with
      | base => exact hplain.elim
      | block _ hcount heach =>
        have hall := List.forall₂_iff_zip.2 ⟨hcount, fun hpair => heach _ hpair⟩
        obtain ⟨field, hfield, hbreaks⟩ := exists_breaks_of_mem hall hmem
        obtain ⟨goal, rest, hrest, hhas⟩ := ih (.breaks hfield rfl hbreaks)
        exact ⟨goal, rest, hreaches hrest, hhas⟩
    | breaks _ _ hbreaks => cases hbreaks

end ValueType

open ValueType in
/-- **What a schema reports is complete and true.** The names of the declarations of a schema
ascend, and of those that it was made of it holds the last one for each name. There is one violation
for each declaration that the attributes do not keep, in the order of the declarations, and it says
how the declaration is broken. On whatever path a violation leads from the attributes, the path ends
at a part of them which does not conform to its type, and what the violation says there is true of
it. -/
theorem Schema.violations_truthful :
    (∀ (resourceType : String) (description : Option String) (declarations : List Declaration),
      Ascend (ofDeclarations resourceType description declarations).declarations ∧
        ∀ declaration,
          declaration ∈ (ofDeclarations resourceType description declarations).declarations ↔
            Counts declaration declarations) ∧
      ∀ (schema : Schema) (attributes : Attributes),
        List.Forall₂ (fun field violation => Breaks field (attributes.lookup field.name) violation)
          (broken schema.declarations attributes) (schema.violations attributes) ∧
        ∀ violation ∈ schema.violations attributes, ∀ path part, violation.Leads path part →
          ∃ type value, Reaches (.block schema.declarations) (.map attributes) path type value ∧
            Has type value part ∧ ¬ Conforms type value := by
  refine ⟨fun resourceType description declarations => ?_, fun schema attributes => ?_⟩
  · exact ⟨ascend_ofDeclarations resourceType description declarations,
      fun _ => mem_ofDeclarations_iff resourceType description⟩
  · have hall := forall₂_violations schema.declarations attributes
    refine ⟨hall, fun violation hmem path part hleads => ?_⟩
    obtain ⟨field, hfield, hbreaks⟩ := exists_breaks_of_mem hall hmem
    obtain ⟨type, value, hreaches, hhas⟩ :=
      Has.exists_reaches hleads (.breaks hfield rfl hbreaks)
    exact ⟨type, value, hreaches, hhas, hhas.not_conforms⟩

end PrivateLink
