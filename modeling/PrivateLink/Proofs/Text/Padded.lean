import Mathlib.Data.List.DropRight
import PrivateLink.Proofs.Text.LetterCase
import PrivateLink.Proofs.Text.LowerCase

/-!
# Words and numbers in text

A word may stand between white space (`Padded`), and trimming finds it again as long as it holds no
white space itself. Numbers are such words: decimal digits, with a plus sign before them or without
(`IsDecimal`).

* `trimChars_of_padded`, `padded_trimChars`: what trimming takes off;
* `foldCase_trim_eq_iff`: words in any case of their letters;
* `naturalOfChars_eq_some_iff`, `natural64?_trim_eq_some_iff`: which number is read.
-/

namespace PrivateLink.Text

/-! ### White space around a word -/

/-- The visible characters of ASCII are not white space. -/
theorem isBlank_of_visible {c : Char} (hfirst : 0x21 ≤ c.toNat) (hlast : c.toNat ≤ 0x7E) :
    isBlank c = false := by
  have hmisses : blankRanges.Misses 0x21 0x7E := by decide
  exact hmisses.contains_eq_false hfirst hlast

/-- The text is the word with white space before and after it. -/
def Padded (word : List Char) (text : List Char) : Prop :=
  ∃ before after, text = before ++ word ++ after ∧
    (∀ c ∈ before, isBlank c = true) ∧ ∀ c ∈ after, isBlank c = true

/-- What is dropped from the end of a list is what is there after a last item that is kept. -/
theorem rdropWhile_append_of_pos {α : Type} {p : α → Bool} {kept dropped : List α}
    (hkept : ∀ a ∈ kept.getLast?, p a = false) (hdropped : ∀ a ∈ dropped, p a = true) :
    (kept ++ dropped).rdropWhile p = kept := by
  have hreverse : ∀ a ∈ dropped.reverse, p a = true := by simpa using hdropped
  have hself : kept.rdropWhile p = kept := by
    refine List.rdropWhile_eq_self_iff.2 fun hne => ?_
    rw [hkept _ (List.getLast?_eq_some_getLast hne)]
    exact Bool.false_ne_true
  rw [List.rdropWhile, List.reverse_append, List.dropWhile_append_of_pos hreverse]
  exact hself

variable {word text : List Char}

/-- White space around a word without white space comes off. -/
theorem trimChars_of_padded (hword : ∀ c ∈ word, isBlank c = false) (h : Padded word text) :
    trimChars text = word := by
  obtain ⟨before, after, rfl, hbefore, hafter⟩ := h
  rw [trimChars, List.append_assoc, List.dropWhile_append_of_pos hbefore]
  match word, hword with
  | [], _ =>
    have hnothing : after.dropWhile isBlank = [] := List.dropWhile_eq_nil_iff.2 hafter
    rw [List.nil_append, hnothing]
    rfl
  | c :: rest, hword =>
    have hfirst : ¬ isBlank c = true := by
      rw [hword c List.mem_cons_self]
      exact Bool.false_ne_true
    rw [List.cons_append, List.dropWhile_cons_of_neg hfirst]
    exact rdropWhile_append_of_pos (fun d hd => hword d (List.mem_of_getLast? hd)) hafter

/-- What trimming takes off is white space. -/
theorem padded_trimChars (text : List Char) : Padded (trimChars text) text := by
  have hback : trimChars text ++ (text.dropWhile isBlank).rtakeWhile isBlank =
      text.dropWhile isBlank := List.rdropWhile_append_rtakeWhile
  refine ⟨text.takeWhile isBlank, (text.dropWhile isBlank).rtakeWhile isBlank, ?_, ?_, ?_⟩
  · rw [List.append_assoc, hback, List.takeWhile_append_dropWhile]
  · exact fun c => List.mem_takeWhile_imp
  · exact fun c => List.mem_rtakeWhile_imp

/-! ### Case of letters -/

/-- White space has no case. -/
theorem isBlank_toLower (c : Char) : isBlank c.toLower = isBlank c :=
  CodeRanges.Pairs.contains_toLower (.inr (by decide)) c

/-- A word without white space is found in any case of its plain letters. -/
theorem foldCase_trim_eq_iff {text : String} {word : List Char}
    (hword : ∀ c ∈ word, isBlank c = false) :
    foldCase (trim text) = word ↔
      ∃ written, written.map Char.toLower = word ∧ Padded written text.toList := by
  rw [foldCase, trim, String.toList_ofList]
  constructor
  · intro h
    exact ⟨_, h, padded_trimChars _⟩
  · rintro ⟨written, rfl, hpadded⟩
    have hwritten : ∀ c ∈ written, isBlank c = false := by
      intro c hc
      rw [← isBlank_toLower]
      exact hword _ (List.mem_map_of_mem hc)
    rw [trimChars_of_padded hwritten hpadded]

/-! ### Numbers -/

/-- The characters write the number in decimal. -/
def IsDecimal (chars : List Char) (number : Nat) : Prop :=
  ∃ digits, (chars = digits ∨ chars = '+' :: digits) ∧ digits ≠ [] ∧
    (∀ c ∈ digits, c.isDigit = true) ∧ Nat.ofDigitChars 10 digits 0 = number

theorem digitsValue_eq_some_iff {chars : List Char} {value number : Nat} :
    digitsValue value chars = some number ↔
      (∀ c ∈ chars, c.isDigit = true) ∧ Nat.ofDigitChars 10 chars value = number := by
  induction chars generalizing value with
  | nil => simp [digitsValue]
  | cons c rest ih =>
    rw [digitsValue, List.forall_mem_cons, Nat.ofDigitChars_cons]
    by_cases hdigit : c.isDigit = true
    · rw [if_pos hdigit, ih]
      simp only [hdigit, true_and]
    · simp [hdigit]

/-- A digit is no plus sign. -/
theorem ne_plus_of_isDigit {c : Char} (h : c.isDigit = true) : c ≠ '+' := by
  rintro rfl
  exact absurd h (by decide)

theorem naturalOfChars_eq_some_iff {chars : List Char} {number : Nat} :
    naturalOfChars chars = some number ↔ IsDecimal chars number := by
  unfold IsDecimal naturalOfChars
  split
  next c rest =>
    rw [digitsValue_eq_some_iff]
    constructor
    · rintro ⟨hdigits, hvalue⟩
      exact ⟨c :: rest, .inr rfl, nofun, hdigits, hvalue⟩
    · rintro ⟨digits, rfl | hsigned, -, hdigits, hvalue⟩
      · exact absurd rfl (ne_plus_of_isDigit (hdigits '+' List.mem_cons_self))
      · obtain rfl := List.tail_eq_of_cons_eq hsigned
        exact ⟨hdigits, hvalue⟩
  next c rest hsign =>
    rw [digitsValue_eq_some_iff]
    constructor
    · rintro ⟨hdigits, hvalue⟩
      exact ⟨c :: rest, .inl rfl, nofun, hdigits, hvalue⟩
    · rintro ⟨digits, rfl | hsigned, hnonempty, hdigits, hvalue⟩
      · exact ⟨hdigits, hvalue⟩
      · obtain ⟨d, more, rfl⟩ := List.exists_cons_of_ne_nil hnonempty
        obtain ⟨rfl, rfl⟩ := List.cons.inj hsigned
        exact absurd rfl (hsign d more rfl)
  next =>
    constructor
    · exact nofun
    · rintro ⟨digits, rfl | hsigned, hnonempty, -⟩
      · exact absurd rfl hnonempty
      · exact absurd hsigned nofun

/-- Numbers are written without white space. -/
theorem IsDecimal.isBlank_eq_false {chars : List Char} {number : Nat} (h : IsDecimal chars number) :
    ∀ c ∈ chars, isBlank c = false := by
  obtain ⟨digits, hchars, -, hdigits, -⟩ := h
  have hdigit : ∀ c ∈ digits, isBlank c = false := by
    intro c hc
    obtain ⟨hfirst, hlast⟩ := Char.isDigit_iff_toNat.1 (hdigits c hc)
    exact isBlank_of_visible (Nat.le_trans (by decide) hfirst) (Nat.le_trans hlast (by decide))
  obtain rfl | rfl := hchars
  · exact hdigit
  · exact List.forall_mem_cons.2 ⟨by decide, hdigit⟩

/-- The number is read between white space, if it is below the limit. -/
theorem natural64?_trim_eq_some_iff {text : String} {number : Nat} :
    natural64? (trim text) = some number ↔
      number < Nat.pow 2 64 ∧ ∃ word, IsDecimal word number ∧ Padded word text.toList := by
  rw [natural64?, Option.filter_eq_some_iff, decide_eq_true_eq, naturalOfChars_eq_some_iff,
    and_comm, trim, String.toList_ofList]
  refine and_congr_right fun _ => ?_
  constructor
  · intro h
    exact ⟨_, h, padded_trimChars _⟩
  · rintro ⟨word, hword, hpadded⟩
    rwa [trimChars_of_padded hword.isBlank_eq_false hpadded]

end PrivateLink.Text
