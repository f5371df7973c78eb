import PrivateLink.Cloud

/-!
# Shelves are finite maps

What lies on a shelf is changed under one resource group and name at a time.

* `get?_put`, `get?_erase`: what is found afterwards;
* `put_put`: what is put over something else.
-/

namespace PrivateLink.Cloud.Shelf

variable {α : Type}

theorem get?_cons (entry : (String × String) × α) (shelf : Shelf α) (group name : String) :
    get? (entry :: shelf) group name =
      if (group, name) = entry.1 then some entry.2 else get? shelf group name := by
  obtain ⟨key, value⟩ := entry
  rw [get?, List.lookup_cons]
  by_cases h : (group, name) = key
  · simp [h]
  · rw [beq_false_of_ne h, if_neg h]
    rfl

/-- Putting a value changes what is found under its own key and nothing else. -/
theorem get?_put (shelf : Shelf α) (group name : String) (value : α) (otherGroup other : String) :
    (put group name value shelf).get? otherGroup other =
      if (otherGroup, other) = (group, name) then some value else shelf.get? otherGroup other := by
  induction shelf with
  | nil => rw [put, get?_cons]
  | cons entry rest ih =>
    rw [put]
    split
    next hkey =>
      rw [get?_cons, get?_cons, hkey]
      split <;> rfl
    next hkey =>
      rw [get?_cons, get?_cons, ih]
      by_cases h : (otherGroup, other) = entry.1
      · rw [if_pos h, if_pos h, if_neg (h ▸ hkey)]
      · rw [if_neg h, if_neg h]

/-- Of values that are put under the same key one after the other the last one counts. -/
theorem put_put (shelf : Shelf α) (group name : String) (earlier value : α) :
    put group name value (put group name earlier shelf) = put group name value shelf := by
  induction shelf with
  | nil => simp [put]
  | cons entry rest ih =>
    by_cases hkey : entry.1 = (group, name)
    · simp [put, hkey]
    · simp [put, hkey, ih]

/-- Erasing a value changes what is found under its key and nothing else. -/
theorem get?_erase (shelf : Shelf α) (group name otherGroup other : String) :
    (shelf.erase group name).get? otherGroup other =
      if (otherGroup, other) = (group, name) then none else shelf.get? otherGroup other := by
  induction shelf with
  | nil =>
    show none = if _ then none else none
    split <;> rfl
  | cons entry rest ih =>
    rw [erase] at ih ⊢
    by_cases hkey : entry.1 = (group, name)
    · rw [List.filter_cons_of_neg (by simpa using hkey), ih, get?_cons, hkey]
      split <;> rfl
    · rw [List.filter_cons_of_pos (by simpa using hkey), get?_cons, get?_cons, ih]
      by_cases h : (otherGroup, other) = entry.1
      · rw [if_pos h, if_pos h, if_neg (h ▸ hkey)]
      · rw [if_neg h, if_neg h]

end PrivateLink.Cloud.Shelf
