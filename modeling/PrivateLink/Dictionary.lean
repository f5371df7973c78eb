/-!
# Dictionaries

Items that are told apart by a key are kept in strictly ascending order of their keys, so equal
collections are equal lists. `insertBy` adds one item, in place of an earlier one with the same key,
and `arrangeBy` brings any items into this order; `pairwise_insertBy` and `pairwise_arrangeBy` say
that they do.

A dictionary is a list of entries in the order of their keys; `lookup_insertEntry` says what is
found in it after one more entry. `Dictionary` carries the order as a proof; a value that nests
entries in itself keeps bare lists and the predicate `Ascending`.
-/

namespace PrivateLink

variable {α : Type}

/-! ### Items in the order of their keys -/

/-- The items with one more, in place of an earlier one with the same key. -/
def insertBy (key : α → String) (item : α) : List α → List α
  | [] => [item]
  | head :: rest =>
    if key item < key head then item :: head :: rest
    else if key item = key head then item :: rest
    else head :: insertBy key item rest

/-- The items in the order of their keys; of items with the same key the last one counts. -/
def arrangeBy (key : α → String) (items : List α) : List α :=
  items.foldl (fun known item => insertBy key item known) []

section Insertion

variable {key : α → String} {item other : α} {items : List α}

/-- Every item of the result is the new one or was there before. -/
theorem eq_or_mem_of_mem_insertBy (h : other ∈ insertBy key item items) :
    other = item ∨ other ∈ items := by
  induction items with
  | nil => exact .inl (List.mem_singleton.1 h)
  | cons head rest ih =>
    rw [insertBy] at h
    split at h
    · exact List.mem_cons.1 h
    · split at h
      · exact (List.mem_cons.1 h).imp_right (List.mem_cons_of_mem _)
      · rcases List.mem_cons.1 h with rfl | h
        · exact .inr List.mem_cons_self
        · exact (ih h).imp_right (List.mem_cons_of_mem _)

/-- Inserting keeps the order. -/
theorem pairwise_insertBy (h : items.Pairwise fun a b => key a < key b) :
    (insertBy key item items).Pairwise fun a b => key a < key b := by
  induction items with
  | nil => exact List.pairwise_singleton _ _
  | cons head rest ih =>
    obtain ⟨hhead, hrest⟩ := List.pairwise_cons.1 h
    rw [insertBy]
    split
    next hlt =>
      have hall : ∀ other ∈ head :: rest, key item < key other := by
        intro other hother
        rcases List.mem_cons.1 hother with rfl | hother
        · exact hlt
        · exact String.lt_trans hlt (hhead other hother)
      exact List.pairwise_cons.2 ⟨hall, h⟩
    next hnotlt =>
      split
      next heq =>
        exact List.pairwise_cons.2 ⟨fun other hother => heq ▸ hhead other hother, hrest⟩
      next hne =>
        have hgt : key head < key item := Std.lt_of_le_of_ne (String.not_lt.1 hnotlt) (Ne.symm hne)
        have hall : ∀ other ∈ insertBy key item rest, key head < key other := by
          intro other hother
          rcases eq_or_mem_of_mem_insertBy hother with rfl | hother
          · exact hgt
          · exact hhead other hother
        exact List.pairwise_cons.2 ⟨hall, ih hrest⟩

theorem pairwise_foldl_insertBy {known : List α} (items : List α)
    (h : known.Pairwise fun a b => key a < key b) :
    (items.foldl (fun known item => insertBy key item known) known).Pairwise
      fun a b => key a < key b := by
  induction items generalizing known with
  | nil => exact h
  | cons item items ih => exact ih (pairwise_insertBy h)

theorem pairwise_arrangeBy (items : List α) :
    (arrangeBy key items).Pairwise fun a b => key a < key b :=
  pairwise_foldl_insertBy items List.Pairwise.nil

end Insertion

/-! ### Entries -/

/-- The keys of the entries ascend strictly, so no key occurs twice. -/
def Ascending (entries : List (String × α)) : Prop :=
  entries.Pairwise fun a b => a.1 < b.1

instance (entries : List (String × α)) : Decidable (Ascending entries) :=
  inferInstanceAs (Decidable (entries.Pairwise fun a b => a.1 < b.1))

/-- The entries with `key` bound to `value`, in place of what it was bound to before. -/
def insertEntry (key : String) (value : α) (entries : List (String × α)) : List (String × α) :=
  insertBy Prod.fst (key, value) entries

/-- The entries of a list of pairs; of pairs with the same key the last one counts. -/
def entriesOf (pairs : List (String × α)) : List (String × α) :=
  arrangeBy Prod.fst pairs

theorem ascending_entriesOf (pairs : List (String × α)) : Ascending (entriesOf pairs) :=
  pairwise_arrangeBy pairs

/-! ### What is found under a key -/

/-- A lookup at the head of the entries. -/
theorem lookup_entry_cons (key name : String) (value : α) (entries : List (String × α)) :
    List.lookup key ((name, value) :: entries) =
      if key = name then some value else entries.lookup key := by
  by_cases h : key = name
  · simp [h]
  · rw [List.lookup_cons, beq_false_of_ne h]; simp [h]

/-- An insertion changes what is found under its own key and nothing else, in any order. -/
theorem lookup_insertEntry (key other : String) (value : α) (entries : List (String × α)) :
    (insertEntry key value entries).lookup other =
      if other = key then some value else entries.lookup other := by
  unfold insertEntry
  induction entries with
  | nil => rw [insertBy, lookup_entry_cons]
  | cons head rest ih =>
    obtain ⟨name, found⟩ := head
    rw [insertBy]
    split
    · rw [lookup_entry_cons]
    · split
      · next heq =>
        subst heq
        simp only [lookup_entry_cons]
        split <;> rfl
      · next hne =>
        simp only [lookup_entry_cons, ih]
        by_cases h : other = key
        · simp [h, hne]
        · simp [h]

/-! ### Dictionaries as a type -/

/-- A finite map from strings. -/
structure Dictionary (α : Type) where
  entries : List (String × α)
  ascending : Ascending entries

namespace Dictionary

instance [DecidableEq α] : DecidableEq (Dictionary α) := fun a b =>
  decidable_of_iff (a.entries = b.entries)
    ⟨fun h => by cases a; cases b; simpa using h, fun h => h ▸ rfl⟩

/-- The dictionary without entries. -/
def empty : Dictionary α := ⟨[], List.Pairwise.nil⟩

instance : Inhabited (Dictionary α) := ⟨empty⟩

instance : EmptyCollection (Dictionary α) := ⟨empty⟩

/-- The dictionary of a list of pairs; of pairs with the same key the last one counts. -/
def ofList (pairs : List (String × α)) : Dictionary α :=
  ⟨entriesOf pairs, ascending_entriesOf pairs⟩

/-- The value bound to `key`. -/
def get? (dictionary : Dictionary α) (key : String) : Option α :=
  dictionary.entries.lookup key

/-- The number of entries. -/
def size (dictionary : Dictionary α) : Nat :=
  dictionary.entries.length

end Dictionary

end PrivateLink
