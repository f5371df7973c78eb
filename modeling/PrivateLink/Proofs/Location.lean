import PrivateLink.Endpoint.Exchange
import PrivateLink.Proofs.Text.LowerCase

/-!
# Normal forms of locations

The normal form of a location is its own normal form, since a text in lower case stays as it is. Of
the white space in a location the normal form drops the plain spaces and nothing else, so it is
blank only if the location is.

* `normalize_normalize`: a location in normal form stays as it is;
* `normalize_append`: the normal form is put together part by part;
* `isBlankText_normalize`: a location that is not blank has a normal form that is not blank.
-/

namespace PrivateLink.Location

open Text

/-- The normal form holds no blank. -/
theorem space_notMem_normalizeChars (chars : List Char) : ' ' ∉ normalizeChars chars := by
  intro h
  obtain ⟨c, hc, hspace⟩ := List.mem_flatMap.1 h
  have hne : c ≠ ' ' := by simpa using (List.mem_filter.1 hc).2
  exact hne (eq_space_of_mem_lowerChar hspace)

theorem space_notMem_normalize (location : String) : ' ' ∉ (normalize location).toList := by
  rw [normalize, String.toList_ofList]
  exact space_notMem_normalizeChars _

/-- The normal form is in lower case. -/
theorem lowerChar_of_mem_normalize {location : String} {c : Char}
    (h : c ∈ (normalize location).toList) : lowerChar c = [c] := by
  rw [normalize, String.toList_ofList] at h
  obtain ⟨d, -, hmem⟩ := List.mem_flatMap.1 h
  exact lowerChar_of_mem hmem

/-- The normal form of a location that is made of two parts is made of theirs. -/
theorem normalize_append (a b : String) : normalize (a ++ b) = normalize a ++ normalize b := by
  rw [normalize, String.toList_append, normalizeChars_append, String.ofList_append, normalize,
    normalize]

/-- The normal form of a location is its own normal form. -/
theorem normalize_normalize (location : String) :
    normalize (normalize location) = normalize location := by
  have hkeep : (normalizeChars location.toList).filter (· ≠ ' ') =
      normalizeChars location.toList := by
    refine List.filter_eq_self.2 fun c hc => ?_
    have hne : c ≠ ' ' := fun heq => space_notMem_normalizeChars _ (heq ▸ hc)
    simpa using hne
  rw [normalize, normalize, String.toList_ofList]
  conv => lhs; rw [normalizeChars, hkeep, normalizeChars, lowerEach_lowerEach]
  rfl

/-- What the normal form drops is white space, and what it keeps stays white space or stays none. -/
theorem all_isBlank_normalizeChars (chars : List Char) :
    (normalizeChars chars).all isBlank = chars.all isBlank := by
  induction chars with
  | nil => rfl
  | cons c chars ih =>
    have hfirst : (normalizeChars [c]).all isBlank = isBlank c := by
      by_cases hspace : c = ' '
      · subst hspace
        decide
      · have hlower : normalizeChars [c] = lowerChar c := by
          simp [normalizeChars, lowerEach, hspace]
        rw [hlower, all_isBlank_lowerChar]
    have hsplit : normalizeChars (c :: chars) = normalizeChars [c] ++ normalizeChars chars :=
      normalizeChars_append [c] chars
    rw [hsplit, List.all_append, hfirst, ih, List.all_cons]

/-- **The normal form of a location is blank just when the location is.** -/
theorem isBlankText_normalize (location : String) :
    isBlankText (normalize location) = isBlankText location := by
  rw [isBlankText, normalize, String.toList_ofList, all_isBlank_normalizeChars, isBlankText]

end PrivateLink.Location
