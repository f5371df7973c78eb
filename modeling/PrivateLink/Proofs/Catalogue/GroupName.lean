import Mathlib.Algebra.Group.Action.Defs
import Mathlib.Algebra.Order.BigOperators.Group.List
import Mathlib.Algebra.Order.Ring.Nat
import PrivateLink.Proofs.Catalogue.Accepted

/-!
# Names of resource groups

The rule for the name of a resource group counts characters (`IsGroupName`), while the check counts
the bytes of its UTF-8 form. So no name is accepted against the rule, and the two agree on names
that need one byte for each character and on names that are short enough in any case; but a name of
other letters may be refused for its length though the rule allows it.

* `length_le_utf8ByteSize`, `utf8ByteSize_le`: characters and bytes;
* `checkGroupName_counts_bytes`: which names are accepted, and where check and rule part.
-/

namespace PrivateLink

/-! ### Characters and bytes -/

namespace Text

variable {text : String}

theorem utf8ByteSize_ofList (chars : List Char) :
    (String.ofList chars).utf8ByteSize = (chars.map Char.utf8Size).sum := by
  induction chars with
  | nil => rfl
  | cons c rest ih =>
    have hcons : String.ofList (c :: rest) = String.singleton c ++ String.ofList rest := by
      rw [String.singleton_eq_ofList, ← String.ofList_append]
      rfl
    rw [hcons, String.utf8ByteSize_append, String.utf8ByteSize_singleton, ih, List.map_cons,
      List.sum_cons]

/-- The bytes of a text are those of its characters. -/
theorem utf8ByteSize_eq (text : String) :
    text.utf8ByteSize = (text.toList.map Char.utf8Size).sum := by
  rw [← utf8ByteSize_ofList, String.ofList_toList]

theorem length_le_utf8ByteSize (text : String) : text.length ≤ text.utf8ByteSize := by
  have hone : ∀ size ∈ text.toList.map Char.utf8Size, 1 ≤ size :=
    List.forall_mem_map.2 fun c _ => c.utf8Size_pos
  have hsum := List.length_le_sum_of_one_le _ hone
  rwa [List.length_map, String.length_toList, ← utf8ByteSize_eq] at hsum

theorem utf8ByteSize_le (text : String) : text.utf8ByteSize ≤ 4 * text.length := by
  have hfour : ∀ size ∈ text.toList.map Char.utf8Size, size ≤ 4 :=
    List.forall_mem_map.2 fun c _ => c.utf8Size_le_four
  have hsum := List.sum_le_card_nsmul _ 4 hfour
  rw [List.length_map, String.length_toList, ← utf8ByteSize_eq, smul_eq_mul] at hsum
  omega

/-- The characters of ASCII are as many as their bytes. -/
theorem utf8ByteSize_of_plain (h : ∀ c ∈ text.toList, c.toNat < 0x80) :
    text.utf8ByteSize = text.length := by
  have hone : ∀ size ∈ text.toList.map Char.utf8Size, size = 1 := by
    refine List.forall_mem_map.2 fun c hc => Char.utf8Size_eq_one_iff.2 ?_
    exact Nat.le_of_lt_succ (h c hc)
  rw [utf8ByteSize_eq, List.sum_eq_card_nsmul _ 1 hone, List.length_map, String.length_toList,
    smul_eq_mul, Nat.mul_one]

end Text

/-! ### The rule -/

namespace Catalogue

/-- A word character is alphabetic, a mark, a decimal digit, a connector or a join control. -/
def IsWordCharacter (c : Char) : Prop :=
  (Text.isAlphabetic c = true ∨ Text.isMark c = true ∨ Text.isDecimalDigit c = true ∨
    Text.connectorRanges.contains c = true ∨ Text.joinControlRanges.contains c = true) ∧
      Text.isOfSeventeenthEdition c = false

/-- The name keeps the rule for names of resource groups. -/
structure IsGroupName (name : String) : Prop where
  nonempty : 1 ≤ name.length
  short : name.length ≤ 90
  characters : ∀ c ∈ name.toList, c ∈ ['-', '.', '(', ')'] ∨ IsWordCharacter c
  last : name.toList.getLast? ≠ some '.'

variable {name : String}

theorem isWordCharacter_eq_true_iff {c : Char} :
    Text.isWordCharacter c = true ↔ IsWordCharacter c := by
  simp only [Text.isWordCharacter, IsWordCharacter, Bool.and_eq_true, Bool.or_eq_true,
    Bool.not_eq_true', or_assoc]

/-- The underscore, which the check names on its own, is a connector. -/
theorem isGroupCharacter_eq_true_iff {c : Char} :
    isGroupCharacter c = true ↔ c ∈ ['-', '.', '(', ')'] ∨ IsWordCharacter c := by
  have hunderscore : Text.isWordCharacter '_' = true := by decide +kernel
  rw [← isWordCharacter_eq_true_iff]
  simp only [isGroupCharacter, Bool.or_eq_true, beq_iff_eq, List.mem_cons, List.not_mem_nil,
    or_false]
  constructor
  · rintro (((((rfl | rfl) | rfl) | rfl) | rfl) | hword)
    · exact .inl (.inl rfl)
    · exact .inl (.inr (.inl rfl))
    · exact .inr hunderscore
    · exact .inl (.inr (.inr (.inl rfl)))
    · exact .inl (.inr (.inr (.inr rfl)))
    · exact .inr hword
  · rintro ((rfl | rfl | rfl | rfl) | hword)
    · exact .inl (.inl (.inl (.inl (.inl rfl))))
    · exact .inl (.inl (.inl (.inl (.inr rfl))))
    · exact .inl (.inl (.inr rfl))
    · exact .inl (.inr rfl)
    · exact .inr hword

theorem checkGroupName_eq_ok_iff :
    checkGroupName name = .ok () ↔ IsGroupName name ∧ name.utf8ByteSize ≤ 90 := by
  unfold checkGroupName
  by_cases hlong : groupLimit < name.utf8ByteSize
  · rw [if_pos hlong]
    exact iff_of_false nofun fun h => Nat.not_lt.2 h.2 hlong
  rw [if_neg hlong]
  by_cases hlast : name.toList.getLast? = some '.'
  · rw [if_pos hlast]
    exact iff_of_false nofun fun h => h.1.last hlast
  rw [if_neg hlast]
  have hbytes : name.utf8ByteSize ≤ 90 := Nat.le_of_not_lt hlong
  have hempty : name.toList.isEmpty = true ↔ ¬ 1 ≤ name.length := by
    rw [List.isEmpty_iff_length_eq_zero, String.length_toList]
    omega
  have hall : name.toList.all isGroupCharacter = true ↔
      ∀ c ∈ name.toList, c ∈ ['-', '.', '(', ')'] ∨ IsWordCharacter c := by
    rw [List.all_eq_true]
    exact forall₂_congr fun c _ => isGroupCharacter_eq_true_iff
  by_cases hchars : (name.toList.isEmpty || !name.toList.all isGroupCharacter) = true
  · rw [if_pos hchars]
    refine iff_of_false nofun fun h => ?_
    rw [Bool.or_eq_true, hempty, Bool.not_eq_true', Bool.eq_false_iff, Ne, hall] at hchars
    exact hchars.elim (absurd h.1.nonempty) (absurd h.1.characters)
  · rw [if_neg hchars]
    rw [Bool.or_eq_true, hempty, Bool.not_eq_true', Bool.eq_false_iff, Ne, hall, not_or, not_not,
      not_not] at hchars
    have hshort : name.length ≤ 90 := Nat.le_trans (Text.length_le_utf8ByteSize name) hbytes
    exact iff_of_true rfl ⟨⟨hchars.1, hshort, hchars.2, hlast⟩, hbytes⟩

/-- **The check counts bytes.** A name is accepted just when it keeps the rule and has at most
ninety bytes. So the check is the rule for names in ASCII and for names of at most twenty-two
characters, and any other name that keeps the rule is refused as too long when its bytes are more
than ninety. -/
theorem checkGroupName_counts_bytes (name : String) :
    (checkGroupName name = .ok () ↔ IsGroupName name ∧ name.utf8ByteSize ≤ 90) ∧
    ((∀ c ∈ name.toList, c.toNat < 0x80) ∨ name.length ≤ 22 →
      (checkGroupName name = .ok () ↔ IsGroupName name)) ∧
    (IsGroupName name → 90 < name.utf8ByteSize →
      checkGroupName name = .error (.groupTooLong name)) := by
  refine ⟨checkGroupName_eq_ok_iff, ?_, ?_⟩
  · intro hfew
    rw [checkGroupName_eq_ok_iff]
    refine and_iff_left_of_imp fun h => ?_
    obtain hplain | hshort := hfew
    · rw [Text.utf8ByteSize_of_plain hplain]
      exact h.short
    · have hbytes := Text.utf8ByteSize_le name
      omega
  · intro _ hlong
    exact if_pos hlong

/-- Letters with an accent are letters. -/
theorem isGroupName_accents {count : Nat} (hpos : 1 ≤ count) (hshort : count ≤ 90) :
    IsGroupName (String.ofList (List.replicate count 'é')) := by
  have hword : IsWordCharacter 'é' := isWordCharacter_eq_true_iff.1 (by decide +kernel)
  have hall : ∀ c ∈ (String.ofList (List.replicate count 'é')).toList, c = 'é' := by
    intro c hc
    rw [String.toList_ofList] at hc
    exact List.eq_of_mem_replicate hc
  refine ⟨?_, ?_, fun c hc => .inr (hall c hc ▸ hword), fun hlast => ?_⟩
  · rwa [String.length_ofList, List.length_replicate]
  · rwa [String.length_ofList, List.length_replicate]
  · exact absurd (hall '.' (List.mem_of_getLast? hlast)) (by decide)

/-- Forty-five letters of two bytes each are not too many. -/
theorem checkGroupName_accents :
    checkGroupName (String.ofList (List.replicate 45 'é')) = .ok () :=
  (checkGroupName_counts_bytes _).1.2
    ⟨isGroupName_accents (by decide) (by decide), by decide +kernel⟩

/-- Forty-six of them are, though the rule allows ninety characters. -/
theorem checkGroupName_refuses_accents :
    IsGroupName (String.ofList (List.replicate 46 'é')) ∧
      checkGroupName (String.ofList (List.replicate 46 'é')) =
        .error (.groupTooLong (String.ofList (List.replicate 46 'é'))) :=
  ⟨isGroupName_accents (by decide) (by decide), if_pos (by decide +kernel)⟩

end Catalogue

end PrivateLink
