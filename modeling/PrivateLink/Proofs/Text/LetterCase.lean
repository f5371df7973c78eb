import PrivateLink.Text.LowerCase

/-!
# Two ways to disregard case

Texts are compared without regard to the case of plain letters (`equalIgnoringCase`) or by their
lower-case forms (`lowerText`). The lower-case form of a text depends only on the text with its
plain capitals turned into small letters, so the first comparison is the finer one: the context that
decides between the forms of a small sigma is the same for a plain letter and its capital. On texts
without capitals beyond the plain letters both comparisons agree.

* `lowerText_eq_of_equalIgnoringCase`: texts that differ in the case of plain letters;
* `lowerText_eq_iff_of_plainCapitals`: texts without other capitals.
-/

namespace PrivateLink.Text

/-! ### Plain letters -/

/-- A character is its own small letter, or it is one of the plain capitals. -/
theorem toLower_eq_self_or_capital (c : Char) :
    c.toLower = c ∨ 0x41 ≤ c.toNat ∧ c.toNat ≤ 0x5A ∧ c.toLower.toNat = c.toNat + 0x20 := by
  by_cases hcapital : c.val ≥ 'A'.val ∧ c.val ≤ 'Z'.val
  · have hfirst : 0x41 ≤ c.toNat := hcapital.1
    have hlast : c.toNat ≤ 0x5A := hcapital.2
    have hsmall : c.toLower.toNat = (c.toNat + 0x20) % 2 ^ 32 :=
      (congrArg Char.toNat (dif_pos hcapital)).trans (UInt32.toNat_add c.val 0x20)
    exact .inr ⟨hfirst, hlast, by omega⟩
  · exact .inl (dif_neg hcapital)

theorem ne_dottedCapital {c : Char} (h : c.toNat ≤ 0x7A) : c ≠ '\u0130' := by
  rintro rfl
  exact absurd h (by decide)

/-- No run of capitals holds a small letter. -/
theorem lowerChar_of_small {c : Char} (hfirst : 0x61 ≤ c.toNat) (hlast : c.toNat ≤ 0x7A) :
    lowerChar c = [c] := by
  have hapart : ∀ run ∈ capitalRuns, run.last < 0x61 ∨ 0x7A < run.first := by decide +kernel
  have hnone : capitalRuns.find? (·.holds c.toNat) = none := by
    refine List.find?_eq_none.2 fun run hrun => ?_
    have hbeside := hapart run hrun
    simp only [CapitalRun.holds, Bool.and_eq_true, decide_eq_true_eq]
    omega
  rw [lowerChar, if_neg (ne_dottedCapital hlast), hnone]

/-- The first run of capitals holds the plain ones. -/
theorem lowerChar_of_capital {c : Char} (hfirst : 0x41 ≤ c.toNat) (hlast : c.toNat ≤ 0x5A) :
    lowerChar c = [Char.ofNat (c.toNat + 0x20)] := by
  have hholds : CapitalRun.holds ⟨0x41, 0x5A, 1, 0x61⟩ c.toNat = true := by
    simp [CapitalRun.holds, hfirst, hlast, Nat.mod_one]
  have hfind : capitalRuns.find? (·.holds c.toNat) = some ⟨0x41, 0x5A, 1, 0x61⟩ :=
    List.find?_cons_of_pos hholds
  have hplace : 0x61 + (c.toNat - 0x41) = c.toNat + 0x20 := by omega
  rw [lowerChar, if_neg (ne_dottedCapital (by omega)), hfind, ← hplace]

/-- The ranges make no difference between a plain capital and its small letter. -/
def CodeRanges.Pairs (ranges : CodeRanges) : Prop :=
  (0x41, 0x5A) ∈ ranges ∧ (0x61, 0x7A) ∈ ranges ∨
    ∀ range ∈ ranges, (range.2 < 0x41 ∨ 0x5A < range.1) ∧ (range.2 < 0x61 ∨ 0x7A < range.1)

theorem CodeRanges.Pairs.contains_toLower {ranges : CodeRanges} (h : ranges.Pairs) (c : Char) :
    ranges.contains c.toLower = ranges.contains c := by
  rcases toLower_eq_self_or_capital c with hself | ⟨hfirst, hlast, hsmall⟩
  · rw [hself]
  · rw [Bool.eq_iff_iff, contains_iff, contains_iff, hsmall]
    rcases h with ⟨hcapitals, hletters⟩ | hapart
    · exact iff_of_true ⟨_, hletters, by omega, by omega⟩ ⟨_, hcapitals, by omega, by omega⟩
    · refine iff_of_false ?_ ?_ <;>
      · rintro ⟨range, hrange, hlower, hupper⟩
        have hbeside := hapart range hrange
        omega

theorem lowerChar_toLower (c : Char) : lowerChar c.toLower = lowerChar c := by
  rcases toLower_eq_self_or_capital c with hself | ⟨hfirst, hlast, hsmall⟩
  · rw [hself]
  · rw [lowerChar_of_small (by omega) (by omega), lowerChar_of_capital hfirst hlast, ← hsmall,
      Char.ofNat_toNat]

theorem isCased_toLower (c : Char) : isCased c.toLower = isCased c :=
  CodeRanges.Pairs.contains_toLower (.inl ⟨.head _, .tail _ (.head _)⟩) c

theorem isCaseIgnorable_toLower (c : Char) : isCaseIgnorable c.toLower = isCaseIgnorable c :=
  CodeRanges.Pairs.contains_toLower (.inr (by decide +kernel)) c

theorem toLower_eq_sigma_iff (c : Char) : c.toLower = 'Σ' ↔ c = 'Σ' := by
  rcases toLower_eq_self_or_capital c with hself | ⟨-, hlast, hsmall⟩
  · rw [hself]
  · have hsigma : 'Σ'.toNat = 0x3A3 := rfl
    refine iff_of_false ?_ ?_ <;>
    · intro heq
      have hcode := congrArg Char.toNat heq
      omega

/-! ### Whole texts -/

theorem startsCased_map_toLower (chars : List Char) :
    startsCased (chars.map Char.toLower) = startsCased chars := by
  induction chars with
  | nil => rfl
  | cons c chars ih =>
    unfold startsCased at ih ⊢
    rw [List.map_cons, List.dropWhile_cons, List.dropWhile_cons, isCaseIgnorable_toLower]
    cases isCaseIgnorable c with
    | true => exact ih
    | false => exact isCased_toLower c

theorem sigmaBetween_map_toLower (before rest : List Char) :
    sigmaBetween (before.map Char.toLower) (rest.map Char.toLower) = sigmaBetween before rest := by
  unfold sigmaBetween
  rw [startsCased_map_toLower, startsCased_map_toLower]

/-- The case of plain letters makes no difference to lower case, neither in the text nor before
it. -/
theorem lowerAfter_map_toLower (before chars : List Char) :
    lowerAfter (before.map Char.toLower) (chars.map Char.toLower) = lowerAfter before chars := by
  induction chars generalizing before with
  | nil => rfl
  | cons c chars ih =>
    have hrest := ih (c :: before)
    rw [List.map_cons] at hrest
    rw [List.map_cons, lowerAfter, lowerAfter, hrest, lowerChar_toLower, sigmaBetween_map_toLower]
    simp only [toLower_eq_sigma_iff]

/-- **Texts that differ at most in the case of plain letters have the same lower case.** -/
theorem lowerText_eq_of_equalIgnoringCase {a b : String} (h : equalIgnoringCase a b = true) :
    lowerText a = lowerText b := by
  have hfold : a.toList.map Char.toLower = b.toList.map Char.toLower := equalIgnoringCase_iff.1 h
  have hlower := lowerAfter_map_toLower [] a.toList
  rw [hfold, lowerAfter_map_toLower [] b.toList] at hlower
  rw [lowerText, lowerText, hlower]

/-! ### Texts with plain capitals only -/

/-- No character of the text is a capital but for the plain ones. -/
def HasPlainCapitals (text : String) : Prop :=
  ∀ c ∈ text.toList, lowerChar c = [c.toLower]

instance (text : String) : Decidable (HasPlainCapitals text) :=
  List.decidableBAll (fun c => lowerChar c = [c.toLower]) text.toList

theorem lowerAfter_of_plainCapitals (before : List Char) {chars : List Char}
    (h : ∀ c ∈ chars, lowerChar c = [c.toLower]) :
    lowerAfter before chars = chars.map Char.toLower := by
  induction chars generalizing before with
  | nil => rfl
  | cons c chars ih =>
    obtain ⟨hplain, hrest⟩ := List.forall_mem_cons.1 h
    have hsigma : c ≠ 'Σ' := by
      rintro rfl
      exact absurd hplain (by decide +kernel)
    rw [lowerAfter, if_neg hsigma, hplain, ih _ hrest, List.map_cons, List.singleton_append]

theorem lowerText_of_plainCapitals {text : String} (h : HasPlainCapitals text) :
    lowerText text = String.ofList (foldCase text) := by
  rw [lowerText, lowerAfter_of_plainCapitals [] h, foldCase]

/-- **Texts without other capitals than the plain ones** have the same lower case just when they
differ at most in the case of plain letters. -/
theorem lowerText_eq_iff_of_plainCapitals {a b : String} (ha : HasPlainCapitals a)
    (hb : HasPlainCapitals b) : lowerText a = lowerText b ↔ equalIgnoringCase a b = true := by
  rw [lowerText_of_plainCapitals ha, lowerText_of_plainCapitals hb, String.ofList_inj,
    equalIgnoringCase_iff]

end PrivateLink.Text
