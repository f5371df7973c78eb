/-!
# Checks one after the other

A chain of checks goes through when each of them does, and otherwise it ends with the error of the
first one that fails.

* `exists_of_bind_eq_ok`, `error_or_of_bind_eq_error`: a chain taken apart;
* `forM_eq_ok_iff`: the same check for all items of a list;
* `exists_of_mapM_eq_error`: where the reading of a list ends.
-/

namespace PrivateLink

variable {ε ε' α β : Type}

theorem mapError_eq_ok_iff {result : Except ε α} {f : ε → ε'} {found : α} :
    result.mapError f = .ok found ↔ result = .ok found := by
  cases result with
  | error => exact iff_of_false nofun nofun
  | ok =>
    constructor
    · rintro ⟨⟩
      rfl
    · rintro ⟨⟩
      rfl

/-- A check of every item goes through when the check of each of them does. -/
theorem forM_eq_ok_iff {check : α → Except ε Unit} {items : List α} :
    items.forM check = .ok () ↔ ∀ item ∈ items, check item = .ok () := by
  induction items with
  | nil => exact iff_of_true rfl (List.forall_mem_nil _)
  | cons item items ih =>
    rw [List.forall_mem_cons, ← ih]
    change (check item >>= fun _ => items.forM check) = .ok () ↔ _
    cases check item with
    | error fault => exact iff_of_false nofun nofun
    | ok => exact ⟨fun h => ⟨rfl, h⟩, And.right⟩

/-- A computation that succeeds does so step by step. -/
theorem exists_of_bind_eq_ok {first : Except ε α} {rest : α → Except ε β} {b : β}
    (h : (first >>= rest) = .ok b) : ∃ a, first = .ok a ∧ rest a = .ok b := by
  cases first with
  | error error => cases h
  | ok a => exact ⟨a, rfl, h⟩

/-- A computation that fails does so at one of its steps. -/
theorem error_or_of_bind_eq_error {first : Except ε α} {rest : α → Except ε β} {error : ε}
    (h : (first >>= rest) = .error error) :
    first = .error error ∨ ∃ a, first = .ok a ∧ rest a = .error error := by
  cases first with
  | error found =>
    cases h
    exact .inl rfl
  | ok a => exact .inr ⟨a, rfl, h⟩

/-- The reading of a list fails at the first item that cannot be read. -/
theorem exists_of_mapM_eq_error {read : α → Except ε β} {items : List α} {error : ε}
    (h : items.mapM read = .error error) :
    ∃ before item after, items = before ++ item :: after ∧ read item = .error error ∧
      ∀ passed ∈ before, ∃ found, read passed = .ok found := by
  induction items with
  | nil => cases h
  | cons item items ih =>
    rw [List.mapM_cons] at h
    obtain hitem | ⟨found, hfound, hrest⟩ := error_or_of_bind_eq_error h
    · exact ⟨[], item, items, rfl, hitem, List.forall_mem_nil _⟩
    · obtain hrest | ⟨_, -, hrest⟩ := error_or_of_bind_eq_error hrest
      · obtain ⟨before, failed, after, rfl, hfailed, hbefore⟩ := ih hrest
        exact ⟨item :: before, failed, after, rfl, hfailed,
          List.forall_mem_cons.2 ⟨⟨found, hfound⟩, hbefore⟩⟩
      · cases hrest

end PrivateLink
