import PrivateLink.Json.Printer
import PrivateLink.Json.Reader

/-!
# Strings and whole numbers, written and read

What the printer writes for a string or a whole number is read back as that string or number,
whatever text follows. A string ends with its closing quote. A number has no end of its own, so the
text behind it must not go on with it (`EndsNumber`).

* `literal?_literalChars`: a literal is read back;
* `number?_wholeChars`: so is a whole number.
-/

namespace PrivateLink.Json

/-! ### Literals -/

theorem hexValue?_hexDigit (n : Nat) : hexValue? (hexDigit n) = some (n % 16) := by
  have digits : ∀ m < 16, hexValue? (Nat.digitChar m) = some m := by decide
  exact digits _ (Nat.mod_lt _ (by decide))

/-- Four digits that start with two zeros give back the two places behind them. -/
theorem hexFour?_hexDigit {n : Nat} (h : n < 0x20) :
    hexFour? '0' '0' (hexDigit (n / 16)) (hexDigit n) = some n := by
  have hzero : hexValue? '0' = some 0 := by decide
  simp only [hexFour?, hzero, hexValue?_hexDigit, Option.bind_eq_bind, Option.bind_some,
    Option.pure_def, Option.some.injEq]
  omega

/-- A character of a string is read back from the way it is written. -/
theorem codes?_escapedChar {chars rest : List Char} {codes : List Nat}
    (h : codes? chars = some (codes, rest)) (c : Char) :
    codes? (escapedChar c ++ chars) = some (c.toNat :: codes, rest) := by
  unfold escapedChar
  split
  · next hc => subst hc; simp [codes?, escaped?, h]
  split
  · next hc => subst hc; simp [codes?, escaped?, h]
  split
  · next hc => subst hc; simp [codes?, escaped?, h]
  split
  · next hc => subst hc; simp [codes?, escaped?, h]
  split
  · next hc => subst hc; simp [codes?, escaped?, h]
  split
  · next hc => subst hc; simp [codes?, escaped?, h]
  split
  · next hc => subst hc; simp [codes?, escaped?, h]
  split
  · next hc => simp [codes?, hexFour?_hexDigit hc, h]
  -- What is not escaped is neither a quotation mark nor a backslash.
  · next hquote hslash _ _ _ _ _ hc =>
    rw [List.singleton_append, codes?.eq_5 _ _ hquote (fun _ _ _ _ _ hc _ => hslash hc)
      fun _ _ hc _ => hslash hc]
    simp [hc, h]

theorem codes?_literal (chars rest : List Char) :
    codes? (chars.flatMap escapedChar ++ '"' :: rest) = some (chars.map Char.toNat, rest) := by
  induction chars with
  | nil => exact codes?.eq_2 rest
  | cons c chars ih =>
    rw [List.flatMap_cons, List.append_assoc, List.map_cons]
    exact codes?_escapedChar ih c

/-- The code point of a character is no half of a surrogate pair. -/
theorem not_surrogate (c : Char) :
    isHighSurrogate c.toNat = false ∧ isLowSurrogate c.toNat = false := by
  have hvalid : c.toNat < 0xD800 ∨ 0xDFFF < c.toNat ∧ c.toNat < 0x110000 := c.valid
  simp only [isHighSurrogate, isLowSurrogate, Bool.and_eq_false_iff, decide_eq_false_iff_not]
  omega

theorem charsOfCodes?_map_toNat (chars : List Char) :
    charsOfCodes? (chars.map Char.toNat) = some chars := by
  induction chars with
  | nil => rfl
  | cons c chars ih =>
    obtain ⟨hhigh, hlow⟩ := not_surrogate c
    cases chars with
    | nil => simp [charsOfCodes?, hhigh, hlow]
    | cons d chars =>
      rw [List.map_cons] at ih
      simp [charsOfCodes?, hhigh, hlow, ih]

/-- A literal is read back from what follows its opening quote. -/
theorem literal?_literalChars (text : String) (rest : List Char) :
    literal? (text.toList.flatMap escapedChar ++ '"' :: rest) = some (some text, rest) := by
  rw [literal?, codes?_literal]
  simp [charsOfCodes?_map_toNat]

/-! ### Whole numbers -/

/-- A number does not go on at the front of the text. -/
def EndsNumber (chars : List Char) : Prop :=
  ∀ c ∈ chars.head?, c.isDigit = false ∧ c ≠ '.' ∧ c ≠ 'e' ∧ c ≠ 'E'

theorem endsNumber_nil : EndsNumber [] := nofun

theorem decimalValue_toDigits (n : Nat) : decimalValue (Nat.toDigits 10 n) = n := by
  rw [decimalValue, ← Nat.ofDigitChars_eq_foldl]
  exact Nat.ofDigitChars_ten_toDigits

theorem isDigit_of_mem_toDigits {n : Nat} {c : Char} (h : c ∈ Nat.toDigits 10 n) :
    c.isDigit = true :=
  Nat.isDigit_of_mem_toDigits (by decide) (by decide) h

/-- Only zero is written with a zero in front. -/
theorem head_toDigits_ne_zero (n : Nat) (h : n ≠ 0) : (Nat.toDigits 10 n).head? ≠ some '0' := by
  induction n using Nat.strongRecOn with
  | _ n ih =>
    rw [Nat.toDigits_eq_if (by decide)]
    split
    · next hlt =>
      have digits : ∀ m < 10, m ≠ 0 → Nat.digitChar m ≠ '0' := by decide
      simpa using digits n hlt h
    · next hge =>
      rw [List.head?_append]
      have hhead := ih (n / 10) (by omega) (by omega)
      cases hdigits : (Nat.toDigits 10 (n / 10)).head? with
      | none => exact absurd (List.head?_eq_none_iff.1 hdigits) Nat.toDigits_ne_nil
      | some c => simpa [hdigits] using hhead

theorem digits?_append {digits rest : List Char} (hne : digits ≠ [])
    (hdigits : ∀ c ∈ digits, c.isDigit = true) (hrest : EndsNumber rest) :
    digits? (digits ++ rest) = some (digits, rest) := by
  have htail : rest.takeWhile Char.isDigit = [] ∧ rest.dropWhile Char.isDigit = rest := by
    cases rest with
    | nil => exact ⟨rfl, rfl⟩
    | cons c rest => simp [(hrest c rfl).1]
  rw [digits?, List.takeWhile_append_of_pos hdigits, List.dropWhile_append_of_pos hdigits,
    htail.1, htail.2, List.append_nil]
  cases digits with
  | nil => exact absurd rfl hne
  | cons c digits => rfl

theorem wholeDigits?_toDigits (n : Nat) {rest : List Char} (hrest : EndsNumber rest) :
    wholeDigits? (Nat.toDigits 10 n ++ rest) = some (Nat.toDigits 10 n, rest) := by
  by_cases hzero : n = 0
  · subst hzero
    rfl
  · have hhead := head_toDigits_ne_zero n hzero
    have hread : digits? (Nat.toDigits 10 n ++ rest) = some (Nat.toDigits 10 n, rest) :=
      digits?_append Nat.toDigits_ne_nil (fun c => isDigit_of_mem_toDigits) hrest
    cases hdigits : Nat.toDigits 10 n with
    | nil => exact absurd hdigits Nat.toDigits_ne_nil
    | cons c digits =>
      rw [hdigits] at hhead hread
      rw [List.cons_append] at hread ⊢
      rw [wholeDigits?]
      · exact hread
      · rintro _ ⟨⟩
        exact hhead rfl

/-- Digits without a fraction or an exponent behind them are a whole number. -/
theorem unsigned?_toDigits (negative : Bool) (n : Nat) (hsign : negative = true → n ≠ 0)
    {rest : List Char} (hrest : EndsNumber rest) :
    unsigned? negative (Nat.toDigits 10 n ++ rest) =
      some (.whole (if negative then -(n : Int) else n), rest) := by
  have hfraction : fractionDigits? rest = some ([], rest) := by
    cases rest with
    | nil => rfl
    | cons c rest =>
      rw [fractionDigits?]
      rintro _ ⟨⟩
      exact (hrest _ rfl).2.1 rfl
  have hexponent : exponent? rest = some (none, rest) := by
    cases rest with
    | nil => rfl
    | cons c rest => simp [exponent?, (hrest c rfl).2.2]
  simpa [unsigned?, wholeDigits?_toDigits n hrest, hfraction, hexponent, decimalValue_toDigits]
    using hsign

/-- A whole number is read back. -/
theorem number?_wholeChars (value : Int) {rest : List Char} (hrest : EndsNumber rest) :
    number? (wholeChars value ++ rest) = some (.whole value, rest) := by
  unfold wholeChars
  split
  · next hneg =>
    rw [List.cons_append, number?, unsigned?_toDigits true _ (fun _ => by omega) hrest]
    simp only [if_true, Option.some.injEq, Prod.mk.injEq, and_true, Number.whole.injEq]
    omega
  · next hnonneg =>
    have hread := unsigned?_toDigits false value.natAbs (by simp) hrest
    -- Without a sign the number starts with a digit.
    have hhead : ∀ c ∈ (Nat.toDigits 10 value.natAbs ++ rest).head?, c ≠ '-' := by
      cases hdigits : Nat.toDigits 10 value.natAbs with
      | nil => exact absurd hdigits Nat.toDigits_ne_nil
      | cons c digits =>
        rintro _ ⟨⟩ rfl
        have hdigit := isDigit_of_mem_toDigits (hdigits ▸ List.mem_cons_self)
        exact absurd hdigit (by decide)
    rw [number?, hread]
    · simp only [Bool.false_eq_true, if_false, Option.some.injEq, Prod.mk.injEq, and_true,
        Number.whole.injEq]
      omega
    · intro tail htail
      exact hhead '-' (by rw [htail]; rfl) rfl

end PrivateLink.Json
