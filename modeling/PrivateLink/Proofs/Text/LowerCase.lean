import PrivateLink.Text.LowerCase

/-!
# Characters in lower case

No letter that a capital is mapped to is a capital again. This rests on the table of capitals and is
checked run by run, since the letters of a run lie apart from every run of capitals, or between the
capitals of a run that takes every other code point (`CapitalRun.misses`).

Lower case also leaves white space alone: no run meets a range of white space, neither with its
capitals nor with their letters.

* `lowerEach_lowerEach`: a text in lower case stays as it is;
* `isBlank_of_mem_lowerChar`: white space has no case.
-/

namespace PrivateLink.Text

/-- The letters of the run are no capitals of the other run. -/
def CapitalRun.misses (run other : CapitalRun) : Bool :=
  (run.lower + (run.last - run.first)).blt other.first || other.last.blt run.lower ||
    other.step == 2 && (run.first == run.last || run.step == 2) &&
      (run.lower + other.first) % 2 == 1

/-- The letters of the run are characters behind the blank, other than the capital I with a dot. -/
def CapitalRun.sound (run : CapitalRun) : Bool :=
  (run.lower + (run.last - run.first) < 0x130 ||
      0x130 < run.lower && run.lower + (run.last - run.first) < 0xD800 ||
      0xDFFF < run.lower && run.lower + (run.last - run.first) < 0x110000) &&
    0x20 < run.lower

theorem misses_capitalRuns : (capitalRuns.all fun run => capitalRuns.all run.misses) = true := by
  decide +kernel

theorem misses_of_mem {run other : CapitalRun} (hrun : run ∈ capitalRuns)
    (hother : other ∈ capitalRuns) : run.misses other = true :=
  List.all_eq_true.1 (List.all_eq_true.1 misses_capitalRuns run hrun) other hother

theorem sound_of_mem : ∀ run ∈ capitalRuns, run.sound = true := by
  decide +kernel

/-- What a capital of the run is mapped to is no capital of a run that the letters miss. -/
theorem CapitalRun.holds_lower {run other : CapitalRun} (h : run.misses other = true) {code : Nat}
    (hcode : run.holds code = true) : other.holds (run.lower + (code - run.first)) = false := by
  simp only [misses, holds, Bool.or_eq_true, Bool.and_eq_true, decide_eq_true_eq, beq_iff_eq,
    Nat.blt_eq, Bool.and_eq_false_iff, decide_eq_false_iff_not, beq_eq_false_iff_ne] at h hcode ⊢
  rcases h with (h | h) | ⟨⟨hstep, hrun⟩, hodd⟩
  · omega
  · omega
  · rw [hstep]
    rcases hrun with hsingle | hrun
    · omega
    · rw [hrun] at hcode
      omega

/-- How a character is mapped: to itself, unless it is the capital I with a dot or in a run. -/
theorem mem_lowerChar {c d : Char} (h : d ∈ lowerChar c) :
    c = '\u0130' ∧ (d = 'i' ∨ d = '\u0307') ∨
      (∃ run ∈ capitalRuns, run.holds c.toNat = true ∧
        d = Char.ofNat (run.lower + (c.toNat - run.first))) ∨
      d = c ∧ lowerChar c = [c] := by
  unfold lowerChar at h
  split at h
  · next hc => exact .inl ⟨hc, by simpa using h⟩
  · next hc =>
    split at h
    · next run hfind =>
      have hmem := List.mem_of_find?_eq_some hfind
      have hholds := List.find?_some hfind
      exact .inr (.inl ⟨run, hmem, hholds, by simpa using h⟩)
    · next hfind =>
      exact .inr (.inr ⟨by simpa using h, by rw [lowerChar, if_neg hc, hfind]⟩)

/-- The code point of the letter that a capital of a run is mapped to. -/
theorem toNat_lower {run : CapitalRun} (h : run ∈ capitalRuns) {code : Nat}
    (hcode : run.holds code = true) :
    (Char.ofNat (run.lower + (code - run.first))).toNat = run.lower + (code - run.first) ∧
      run.lower + (code - run.first) ≠ 0x130 ∧ 0x20 < run.lower := by
  have hsound := sound_of_mem run h
  simp only [CapitalRun.sound, CapitalRun.holds, Bool.and_eq_true, Bool.or_eq_true,
    decide_eq_true_eq] at hsound hcode
  have hvalid : (run.lower + (code - run.first)).isValidChar := by
    rw [Nat.isValidChar]
    omega
  rw [Char.ofNat, dif_pos hvalid]
  refine ⟨rfl, ?_, hsound.2⟩
  omega

/-- A character is mapped to something. -/
theorem lowerChar_ne_nil (c : Char) : lowerChar c ≠ [] := by
  unfold lowerChar
  split
  · exact List.cons_ne_nil _ _
  · split <;> exact List.cons_ne_nil _ _

/-- Letters in lower case are mapped to themselves. -/
theorem lowerChar_of_mem {c d : Char} (h : d ∈ lowerChar c) : lowerChar d = [d] := by
  rcases mem_lowerChar h with ⟨-, rfl | rfl⟩ | ⟨run, hrun, hholds, rfl⟩ | ⟨rfl, hself⟩
  · decide +kernel
  · decide +kernel
  · obtain ⟨hcode, hdotted, -⟩ := toNat_lower hrun hholds
    have hmiss : capitalRuns.find? (·.holds (run.lower + (c.toNat - run.first))) = none := by
      refine List.find?_eq_none.2 fun other hother => ?_
      simp [CapitalRun.holds_lower (misses_of_mem hrun hother) hholds]
    have hne : Char.ofNat (run.lower + (c.toNat - run.first)) ≠ '\u0130' := fun heq =>
      hdotted (hcode ▸ congrArg Char.toNat heq)
    rw [lowerChar, if_neg hne, hcode, hmiss]
  · exact hself

/-- A text stays as it is when each of its characters does. -/
theorem lowerEach_eq_self {chars : List Char} (h : ∀ c ∈ chars, lowerChar c = [c]) :
    lowerEach chars = chars := by
  induction chars with
  | nil => rfl
  | cons c chars ih =>
    have htail := ih fun d hd => h d (List.mem_cons_of_mem _ hd)
    rw [lowerEach] at htail ⊢
    rw [List.flatMap_cons, h c List.mem_cons_self, htail, List.singleton_append]

/-- A text in lower case stays as it is. -/
theorem lowerEach_lowerEach (chars : List Char) :
    lowerEach (lowerEach chars) = lowerEach chars := by
  refine lowerEach_eq_self fun d hd => ?_
  obtain ⟨c, -, hmem⟩ := List.mem_flatMap.1 hd
  exact lowerChar_of_mem hmem

/-! ### White space -/

/-- No code point from `first` to `last` belongs to the ranges. -/
def CodeRanges.Misses (ranges : CodeRanges) (first last : Nat) : Prop :=
  ∀ range ∈ ranges, last < range.1 ∨ range.2 < first

instance (ranges : CodeRanges) (first last : Nat) : Decidable (ranges.Misses first last) :=
  inferInstanceAs (Decidable (∀ range ∈ ranges, last < range.1 ∨ range.2 < first))

theorem CodeRanges.Misses.contains_eq_false {ranges : CodeRanges} {first last : Nat}
    (h : ranges.Misses first last) {c : Char} (hfirst : first ≤ c.toNat) (hlast : c.toNat ≤ last) :
    ranges.contains c = false := by
  rw [Bool.eq_false_iff, Ne, contains_iff]
  rintro ⟨range, hrange, hlower, hupper⟩
  have hapart := h range hrange
  omega

/-- Neither capitals nor their letters are white space. -/
theorem blankRanges_misses : ∀ run ∈ capitalRuns, blankRanges.Misses run.first run.last ∧
    blankRanges.Misses run.lower (run.lower + (run.last - run.first)) := by
  decide +kernel

/-- **White space has no case**: what a character is mapped to is white space just when the
character is. -/
theorem isBlank_of_mem_lowerChar {c d : Char} (h : d ∈ lowerChar c) : isBlank d = isBlank c := by
  rcases mem_lowerChar h with ⟨rfl, rfl | rfl⟩ | ⟨run, hrun, hholds, rfl⟩ | ⟨rfl, -⟩
  · decide
  · decide
  · obtain ⟨hcapitals, hletters⟩ := blankRanges_misses run hrun
    obtain ⟨hcode, -, -⟩ := toNat_lower hrun hholds
    simp only [CapitalRun.holds, Bool.and_eq_true, decide_eq_true_eq] at hholds
    rw [isBlank, isBlank, hcapitals.contains_eq_false hholds.1.1 hholds.1.2,
      hletters.contains_eq_false (by omega) (by omega)]
  · rfl

theorem all_isBlank_lowerChar (c : Char) : (lowerChar c).all isBlank = isBlank c := by
  obtain ⟨d, rest, hcons⟩ := List.exists_cons_of_ne_nil (lowerChar_ne_nil c)
  have hmem : d ∈ lowerChar c := hcons ▸ List.mem_cons_self
  rw [Bool.eq_iff_iff, List.all_eq_true]
  constructor
  · intro h
    rw [← isBlank_of_mem_lowerChar hmem]
    exact h d hmem
  · intro h e he
    rw [isBlank_of_mem_lowerChar he]
    exact h

/-- No blank comes of another character. -/
theorem eq_space_of_mem_lowerChar {c : Char} (h : ' ' ∈ lowerChar c) : c = ' ' := by
  rcases mem_lowerChar h with ⟨-, hd⟩ | ⟨run, hrun, hholds, hd⟩ | ⟨hd, -⟩
  · exact absurd hd (by decide)
  · obtain ⟨hcode, -, hlower⟩ := toNat_lower hrun hholds
    have hspace : (0x20 : Nat) = run.lower + (c.toNat - run.first) := by
      rw [← hcode, ← hd]
      rfl
    omega
  · exact hd.symm

end PrivateLink.Text
