import Mathlib.Data.List.Nodup
import Mathlib.Data.List.Perm.Subperm
import PrivateLink.Dictionary

/-!
# Arrangements by keys and dictionaries

Of the items that are arranged by their keys the last one of each key stays. Items with different
keys therefore all stay, and the order in which they were given is forgotten. A dictionary is made
again from its entries in any order, and one that is made from any list of pairs has no entries but
those of the list.

* `mem_arrangeBy_iff`: which items stay;
* `arrangeBy_perm`, `arrangeBy_eq_of_perm`: items with different keys;
* `Dictionary.ofList_of_perm`, `Dictionary.ofList_entries`: the dictionary of its own entries;
* `lookup_entriesOf`, `mem_of_mem_entriesOf`, `length_entriesOf_le`: the entries of any list of
  pairs.
-/

namespace PrivateLink

variable {α : Type}

/-! ### One more item -/

section Arrangement

variable {key : α → String} {item other : α} {items known sorted : List α}

theorem nodup_keys (h : items.Pairwise fun a b => key a < key b) : (items.map key).Nodup :=
  List.pairwise_map.2 (h.imp String.ne_of_lt)

theorem mem_insertBy_self (key : α → String) (item : α) (items : List α) :
    item ∈ insertBy key item items := by
  induction items with
  | nil => exact List.mem_singleton.2 rfl
  | cons head rest ih =>
    rw [insertBy]
    split
    next => exact List.mem_cons_self
    next =>
      split
      next => exact List.mem_cons_self
      next => exact List.mem_cons_of_mem _ ih

/-- An item stays until another one with the same key comes. -/
theorem mem_insertBy_of_mem (hne : key other ≠ key item) (hmem : other ∈ items) :
    other ∈ insertBy key item items := by
  induction items with
  | nil => cases hmem
  | cons head rest ih =>
    rw [insertBy]
    split
    next => exact List.mem_cons_of_mem _ hmem
    next =>
      split
      next hkey =>
        rcases List.mem_cons.1 hmem with rfl | hrest
        · exact absurd hkey.symm hne
        · exact List.mem_cons_of_mem _ hrest
      next =>
        rcases List.mem_cons.1 hmem with rfl | hrest
        · exact List.mem_cons_self
        · exact List.mem_cons_of_mem _ (ih hrest)

/-- A new item takes the place of the one with its key. -/
theorem mem_insertBy_iff (h : items.Pairwise fun a b => key a < key b) :
    other ∈ insertBy key item items ↔
      other = item ∨ other ∈ items ∧ key other ≠ key item := by
  have hself : item ∈ insertBy key item items := mem_insertBy_self key item items
  constructor
  · intro hmem
    by_cases hkey : key other = key item
    · exact .inl (List.inj_on_of_nodup_map (nodup_keys (pairwise_insertBy h)) hmem hself hkey)
    · exact (eq_or_mem_of_mem_insertBy hmem).imp_right fun hitems => ⟨hitems, hkey⟩
  · rintro (rfl | ⟨hitems, hkey⟩)
    · exact hself
    · exact mem_insertBy_of_mem hkey hitems

/-! ### The items that stay -/

/-- The item is in the list, and none behind it has its key. -/
def CountsBy (key : α → String) (item : α) (items : List α) : Prop :=
  ∃ before after, items = before ++ item :: after ∧ ∀ other ∈ after, key other ≠ key item

theorem countsBy_cons_iff {head : α} {rest : List α} :
    CountsBy key item (head :: rest) ↔
      CountsBy key item rest ∨ item = head ∧ ∀ other ∈ rest, key other ≠ key head := by
  constructor
  · rintro ⟨_ | ⟨first, before⟩, after, hsplit, hafter⟩
    · obtain ⟨rfl, rfl⟩ := List.cons.inj hsplit
      exact .inr ⟨rfl, hafter⟩
    · obtain ⟨-, rfl⟩ := List.cons.inj hsplit
      exact .inl ⟨before, after, rfl, hafter⟩
  · rintro (⟨before, after, rfl, hafter⟩ | ⟨rfl, hrest⟩)
    · exact ⟨head :: before, after, rfl, hafter⟩
    · exact ⟨[], rest, rfl, hrest⟩

/-- Of items with different keys each one counts. -/
theorem countsBy_iff_mem (hkeys : (items.map key).Nodup) :
    CountsBy key item items ↔ item ∈ items := by
  constructor
  · rintro ⟨before, after, rfl, -⟩
    exact List.mem_append_right _ List.mem_cons_self
  · intro hmem
    obtain ⟨before, after, rfl⟩ := List.append_of_mem hmem
    rw [List.map_append, List.map_cons] at hkeys
    have hfresh : key item ∉ after.map key := (List.nodup_cons.1 hkeys.of_append_right).1
    refine ⟨before, after, rfl, fun other hother heq => ?_⟩
    exact hfresh (List.mem_map.2 ⟨other, hother, heq⟩)

/-- Items are added one by one: the last of each key stays, and of those that were known before the
ones whose keys do not come again. -/
theorem mem_foldl_insertBy_iff (h : known.Pairwise fun a b => key a < key b) :
    other ∈ items.foldl (fun known item => insertBy key item known) known ↔
      CountsBy key other items ∨ other ∈ known ∧ ∀ item ∈ items, key item ≠ key other := by
  induction items generalizing known with
  | nil =>
    have hnone : ¬ CountsBy key other [] := by
      rintro ⟨_ | _, _, hsplit, -⟩ <;> cases hsplit
    simp [hnone]
  | cons head rest ih =>
    rw [List.foldl_cons, ih (pairwise_insertBy h), mem_insertBy_iff h, countsBy_cons_iff,
      List.forall_mem_cons]
    constructor
    · rintro (hcounts | ⟨rfl | ⟨hknown, hhead⟩, hrest⟩)
      · exact .inl (.inl hcounts)
      · exact .inl (.inr ⟨rfl, hrest⟩)
      · exact .inr ⟨hknown, hhead.symm, hrest⟩
    · rintro ((hcounts | ⟨rfl, hrest⟩) | ⟨hknown, hhead, hrest⟩)
      · exact .inl hcounts
      · exact .inr ⟨.inl rfl, hrest⟩
      · exact .inr ⟨.inr ⟨hknown, hhead.symm⟩, hrest⟩

/-- **The last item of each key stays.** -/
theorem mem_arrangeBy_iff : item ∈ arrangeBy key items ↔ CountsBy key item items :=
  (mem_foldl_insertBy_iff List.Pairwise.nil).trans (or_iff_left fun h => List.not_mem_nil h.1)

/-- Items with different keys are arranged and nothing else. -/
theorem arrangeBy_perm (hkeys : (items.map key).Nodup) : (arrangeBy key items).Perm items := by
  have hnodup : (arrangeBy key items).Nodup := (nodup_keys (pairwise_arrangeBy items)).of_map key
  refine (List.perm_ext_iff_of_nodup hnodup (hkeys.of_map key)).2 fun item => ?_
  rw [mem_arrangeBy_iff, countsBy_iff_mem hkeys]

/-- However items are given whose keys ascend in the end, arranging them gives the same list. -/
theorem arrangeBy_eq_of_perm (hsorted : sorted.Pairwise fun a b => key a < key b)
    (hperm : items.Perm sorted) : arrangeBy key items = sorted := by
  have hkeys : (items.map key).Nodup := (hperm.map key).nodup_iff.2 (nodup_keys hsorted)
  exact ((arrangeBy_perm hkeys).trans hperm).eq_of_pairwise
    (fun a b _ _ hab hba => absurd hba (String.lt_asymm hab)) (pairwise_arrangeBy items) hsorted

end Arrangement

/-! ### Dictionaries of their own entries -/

/-- Entries whose keys ascend are kept as they are. -/
theorem entriesOf_of_ascending {entries : List (String × α)} (h : Ascending entries) :
    entriesOf entries = entries :=
  arrangeBy_eq_of_perm h (.refl _)

/-- A dictionary is made again from its entries in any order. -/
theorem Dictionary.ofList_of_perm {dictionary : Dictionary α} {pairs : List (String × α)}
    (h : pairs.Perm dictionary.entries) : Dictionary.ofList pairs = dictionary := by
  obtain ⟨entries, hascending⟩ := dictionary
  have hentries : entriesOf pairs = entries := arrangeBy_eq_of_perm hascending h
  simp only [Dictionary.ofList, hentries]

/-- A dictionary is made again from its entries. -/
theorem Dictionary.ofList_entries (dictionary : Dictionary α) :
    Dictionary.ofList dictionary.entries = dictionary :=
  Dictionary.ofList_of_perm (.refl _)

/-! ### Dictionaries of any pairs -/

theorem lookup_foldl_insertBy (key : String) (pairs entries : List (String × α)) :
    (pairs.foldl (fun entries pair => insertBy Prod.fst pair entries) entries).lookup key =
      (pairs.reverse.lookup key).or (entries.lookup key) := by
  induction pairs generalizing entries with
  | nil => rfl
  | cons pair pairs ih =>
    have hinsert : (insertBy Prod.fst pair entries).lookup key =
        if key = pair.1 then some pair.2 else entries.lookup key :=
      lookup_insertEntry pair.1 key pair.2 entries
    rw [List.foldl_cons, ih, hinsert, List.reverse_cons, List.lookup_append, Option.or_assoc,
      lookup_entry_cons]
    split <;> rfl

/-- Of the pairs with a key it is the last one that is found. -/
theorem lookup_entriesOf (key : String) (pairs : List (String × α)) :
    (entriesOf pairs).lookup key = pairs.reverse.lookup key :=
  (lookup_foldl_insertBy key pairs []).trans Option.or_none

theorem mem_of_mem_entriesOf {pairs : List (String × α)} {entry : String × α}
    (h : entry ∈ entriesOf pairs) : entry ∈ pairs := by
  obtain ⟨before, after, rfl, -⟩ := mem_arrangeBy_iff.1 h
  exact List.mem_append_right _ List.mem_cons_self

theorem length_entriesOf_le (pairs : List (String × α)) :
    (entriesOf pairs).length ≤ pairs.length := by
  have hnodup : (entriesOf pairs).Nodup := (nodup_keys (ascending_entriesOf pairs)).of_map Prod.fst
  exact (hnodup.subperm fun _ => mem_of_mem_entriesOf).length_le

end PrivateLink
