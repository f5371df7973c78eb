import PrivateLink.Proofs.Checks
import PrivateLink.Proofs.Text.Padded
import PrivateLink.Settings

/-!
# Values of variables

What the values of variables write: addresses, truth values and positive numbers, each in several
spellings. A variable that is worked in either means something for one field of the settings or is
refused (`WorksIn`), and its meaning is told in terms of what its value writes.

* `truthValue?_eq_some_iff`, `positive?_eq_some_iff`: what is read is what is written;
* `WorksIn.settled`, `WorksIn.offence`: what comes of a variable that is worked in;
* `worksIn_manager` and the three others: the variables that have a default.
-/

namespace PrivateLink.Settings

/-! ### What values write -/

/-- The variable is set to a value that is not blank. -/
def Sets (environment : String → Option String) (name value : String) : Prop :=
  environment name = some value ∧ Text.isBlankText value = false

/-- The text begins like the address of a server. -/
def IsAddress (text : String) : Prop :=
  ∃ rest, text.toList = "http://".toList ++ rest ∨ text.toList = "https://".toList ++ rest

/-- The address is the text without the slashes at its end. -/
def IsTrimmed (text address : String) : Prop :=
  (∃ count, text.toList = address.toList ++ List.replicate count '/') ∧
    '/' ∉ address.toList.getLast?

/-- The text writes the truth value as a word or as a digit, in any case of plain letters. -/
def WritesFlag (text : String) (flag : Bool) : Prop :=
  ∃ word, Text.Padded word text.toList ∧
    (word.map Char.toLower = (if flag then "true" else "false").toList ∨
      word.map Char.toLower = (if flag then "1" else "0").toList)

/-- The text writes the number, which is positive and below the limit. -/
def WritesPositive (text : String) (number : Nat) : Prop :=
  0 < number ∧ number < Nat.pow 2 64 ∧
    ∃ word, Text.IsDecimal word number ∧ Text.Padded word text.toList

theorem isAddress_eq_true_iff {text : String} : isAddress text = true ↔ IsAddress text := by
  rw [isAddress, Bool.or_eq_true, List.isPrefixOf_iff_prefix, List.isPrefixOf_iff_prefix, or_comm]
  constructor
  · rintro (⟨rest, h⟩ | ⟨rest, h⟩)
    · exact ⟨rest, .inl h.symm⟩
    · exact ⟨rest, .inr h.symm⟩
  · rintro ⟨rest, h | h⟩
    · exact .inl ⟨rest, h.symm⟩
    · exact .inr ⟨rest, h.symm⟩

theorem isTrimmed_withoutFinalSlashes (text : String) :
    IsTrimmed text (withoutFinalSlashes text) := by
  have hchars : (withoutFinalSlashes text).toList = text.toList.rdropWhile (· == '/') :=
    String.toList_ofList
  have hslashes : text.toList.rtakeWhile (· == '/') =
      List.replicate (text.toList.rtakeWhile (· == '/')).length '/' := by
    refine List.eq_replicate_of_mem fun c hc => ?_
    simpa using List.mem_rtakeWhile_imp hc
  constructor
  · refine ⟨(text.toList.rtakeWhile (· == '/')).length, ?_⟩
    rw [hchars, ← hslashes, List.rdropWhile_append_rtakeWhile]
  · rw [hchars]
    intro hlast
    obtain ⟨hne, hslash⟩ := List.mem_getLast?_eq_getLast hlast
    exact List.rdropWhile_last_not _ _ hne (by rw [← hslash]; rfl)

/-- A text has one form without slashes at its end. -/
theorem IsTrimmed.eq {text address : String} (h : IsTrimmed text address) :
    address = withoutFinalSlashes text := by
  obtain ⟨⟨count, htext⟩, hlast⟩ := h
  have hkept : ∀ c ∈ address.toList.getLast?, (c == '/') = false := by
    intro c hc
    rw [beq_eq_false_iff_ne]
    rintro rfl
    exact hlast hc
  have hdropped : ∀ c ∈ List.replicate count '/', (c == '/') = true := by
    intro c hc
    rw [List.eq_of_mem_replicate hc, beq_self_eq_true]
  have hchars : text.toList.rdropWhile (· == '/') = address.toList := by
    rw [htext]
    exact Text.rdropWhile_append_of_pos hkept hdropped
  exact String.ofList_toList.symm.trans (congrArg String.ofList hchars.symm)

/-- A word that is read in any case of its letters is found between white space. -/
theorem folded_eq_iff {text word : String} (hword : word.toList.any Text.isBlank = false) :
    String.ofList (Text.foldCase (Text.trim text)) = word ↔
      ∃ written, Text.Padded written text.toList ∧ written.map Char.toLower = word.toList := by
  have hvisible : ∀ c ∈ word.toList, Text.isBlank c = false := by simpa using hword
  rw [← String.toList_inj, String.toList_ofList, Text.foldCase_trim_eq_iff hvisible]
  exact exists_congr fun written => and_comm

theorem truthValue?_eq_some_iff {text : String} {flag : Bool} :
    truthValue? text = some flag ↔ WritesFlag text flag := by
  have hwrites : WritesFlag text flag ↔
      String.ofList (Text.foldCase (Text.trim text)) = (if flag then "true" else "false") ∨
        String.ofList (Text.foldCase (Text.trim text)) = (if flag then "1" else "0") := by
    rw [folded_eq_iff (by cases flag <;> decide), folded_eq_iff (by cases flag <;> decide),
      ← exists_or]
    exact exists_congr fun written => and_or_left
  rw [hwrites, truthValue?]
  generalize String.ofList (Text.foldCase (Text.trim text)) = word
  constructor
  · intro h
    split at h
    next hword =>
      cases h
      exact hword
    next =>
      split at h
      next hword =>
        cases h
        exact hword
      next => cases h
  · intro h
    cases flag <;> rcases h with rfl | rfl <;> decide

theorem positive?_eq_some_iff {text : String} {number : Nat} :
    positive? text = some number ↔ WritesPositive text number := by
  rw [positive?, Option.filter_eq_some_iff, Text.natural64?_trim_eq_some_iff, decide_eq_true_eq,
    and_comm]
  exact Iff.rfl

/-- Numbers are written in many ways, but each text writes at most one. -/
theorem WritesPositive.unique {text : String} {number other : Nat} (h : WritesPositive text number)
    (hother : WritesPositive text other) : number = other :=
  Option.some.inj ((positive?_eq_some_iff.2 h).symm.trans (positive?_eq_some_iff.2 hother))

theorem WritesFlag.unique {text : String} {flag other : Bool} (h : WritesFlag text flag)
    (hother : WritesFlag text other) : flag = other :=
  Option.some.inj ((truthValue?_eq_some_iff.2 h).symm.trans (truthValue?_eq_some_iff.2 hother))

/-! ### Variables -/

variable {environment : String → Option String} {name value : String}

theorem given?_eq_some_iff :
    given? environment name = some value ↔ Sets environment name value := by
  rw [given?, Option.filter_eq_some_iff, Bool.not_eq_true']
  exact Iff.rfl

theorem given?_eq_none_iff :
    given? environment name = none ↔ ∀ value, ¬ Sets environment name value := by
  rw [Option.eq_none_iff_forall_ne_some]
  exact forall_congr' fun value => not_congr given?_eq_some_iff

theorem Sets.unique {other : String} (h : Sets environment name value)
    (hother : Sets environment name other) : value = other :=
  Option.some.inj (h.1.symm.trans hother.1)

/-- What a variable settles: its value means this, or it has no value and this is the default. -/
def Settled {α : Type} (environment : String → Option String) (name : String)
    (Means : String → α → Prop) (default a : α) : Prop :=
  (∀ value, Sets environment name value → Means value a) ∧
    ((∀ value, ¬ Sets environment name value) → a = default)

/-- The value cannot be used for the variable. -/
inductive Refuses : String → String → Reason → Prop
  | manager {value : String} (h : ¬ IsAddress value) :
      Refuses "ARM_RESOURCE_MANAGER_ENDPOINT" value .notAnAddress
  | importProtection {value : String} (h : ∀ flag, ¬ WritesFlag value flag) :
      Refuses "ARM_PROVIDER_STRICT" value .notATruthValue
  | pollInterval {value : String} (h : ∀ seconds, ¬ WritesPositive value seconds) :
      Refuses "ARM_POLL_INTERVAL_SECONDS" value .notPositive
  | operationTimeout {value : String} (h : ∀ minutes, ¬ WritesPositive value minutes) :
      Refuses "ARM_OPERATION_TIMEOUT_MINUTES" value .notPositive
  | tooLong {value : String} {minutes : Nat} (h : WritesPositive value minutes)
      (hlong : Nat.pow 2 64 ≤ 60 * minutes) :
      Refuses "ARM_OPERATION_TIMEOUT_MINUTES" value .tooLarge

/-- Any subscription will do. -/
theorem Refuses.ne_subscription {reason : Reason} (h : Refuses name value reason) :
    name ≠ "ARM_SUBSCRIPTION_ID" := by
  cases h <;> decide

/-- A value is refused for one reason. -/
theorem Refuses.unique {other : String} {reason otherReason : Reason}
    (h : Refuses name value reason) (hother : Refuses other value otherReason)
    (hname : name = other) : reason = otherReason := by
  cases h with
  | operationTimeout hnone =>
    cases hother with
    | operationTimeout => rfl
    | tooLong hwrites => exact absurd hwrites (hnone _)
    | _ => exact absurd hname (by decide)
  | tooLong hwrites =>
    cases hother with
    | operationTimeout hnone => exact absurd hwrites (hnone _)
    | tooLong => rfl
    | _ => exact absurd hname (by decide)
  | _ => cases hother <;> first | rfl | exact absurd hname (by decide)

/-- The fault is one that the variables have. -/
inductive Offence (environment : String → Option String) : Fault → Prop
  | missing (h : ∀ value, ¬ Sets environment "ARM_SUBSCRIPTION_ID" value) :
      Offence environment (.missing "ARM_SUBSCRIPTION_ID")
  | invalid {name value : String} {reason : Reason} (hset : Sets environment name value)
      (h : Refuses name value reason) : Offence environment (.invalid name value reason)

/-- A subscription that is given is at no fault. -/
theorem Offence.name_ne_subscription {fault : Fault} (h : Offence environment fault)
    (hset : Sets environment "ARM_SUBSCRIPTION_ID" value) : fault.name ≠ "ARM_SUBSCRIPTION_ID" := by
  cases h with
  | missing hunset => exact absurd hset (hunset value)
  | invalid _ hrefuses => exact hrefuses.ne_subscription

/-- A variable is worked in when its value means something for a field of the settings, and refused
otherwise. -/
structure WorksIn {α : Type} (name : String) (use : Settings → String → Except Reason Settings)
    (change : Settings → α → Settings) (Means : String → α → Prop) : Prop where
  ok : ∀ {settings value after}, use settings value = .ok after →
    ∃ a, Means value a ∧ after = change settings a
  error : ∀ {settings value reason}, use settings value = .error reason →
    Refuses name value reason
  not_refuses : ∀ {value a reason}, Means value a → ¬ Refuses name value reason
  ne_subscription : name ≠ "ARM_SUBSCRIPTION_ID"

namespace WorksIn

variable {α : Type} {use : Settings → String → Except Reason Settings}
  {change : Settings → α → Settings} {Means : String → α → Prop} {settings after : Settings}

theorem settled (h : WorksIn name use change Means) {default : α}
    (hsame : change settings default = settings)
    (hok : withGiven environment name settings use = .ok after) :
    ∃ a, after = change settings a ∧ Settled environment name Means default a := by
  unfold withGiven at hok
  split at hok
  next hnone =>
    have hunset := given?_eq_none_iff.1 hnone
    cases hok
    exact ⟨default, hsame.symm, fun value hset => absurd hset (hunset value), fun _ => rfl⟩
  next value hsome =>
    have hset := given?_eq_some_iff.1 hsome
    obtain ⟨a, hmeans, rfl⟩ := h.ok (mapError_eq_ok_iff.1 hok)
    refine ⟨a, rfl, fun other hother => ?_, fun hunset => absurd hset (hunset value)⟩
    rwa [hother.unique hset]

theorem offence (h : WorksIn name use change Means) {fault : Fault}
    (herror : withGiven environment name settings use = .error fault) :
    Offence environment fault ∧ fault.name = name := by
  unfold withGiven at herror
  split at herror
  next => cases herror
  next value hsome =>
    match hreason : use settings value with
    | .ok after =>
      rw [hreason] at herror
      cases herror
    | .error reason =>
      rw [hreason] at herror
      cases herror
      exact ⟨.invalid (given?_eq_some_iff.1 hsome) (h.error hreason), rfl⟩

/-- A variable that is settled is at no fault. -/
theorem name_ne (h : WorksIn name use change Means) {default a : α}
    (hsettled : Settled environment name Means default a) {fault : Fault}
    (hoffence : Offence environment fault) : fault.name ≠ name := by
  cases hoffence with
  | missing => exact h.ne_subscription.symm
  | invalid hset hrefuses =>
    rintro rfl
    exact h.not_refuses (hsettled.1 _ hset) hrefuses

end WorksIn

theorem worksIn_manager :
    WorksIn "ARM_RESOURCE_MANAGER_ENDPOINT" useManager
      (fun settings manager => { settings with manager })
      (fun value manager => IsAddress value ∧ IsTrimmed value manager) where
  ok := by
    intro settings value after h
    unfold useManager at h
    split at h
    next haddress =>
      cases h
      exact ⟨_, ⟨isAddress_eq_true_iff.1 haddress, isTrimmed_withoutFinalSlashes value⟩, rfl⟩
    next => cases h
  error := by
    intro settings value reason h
    unfold useManager at h
    split at h
    next => cases h
    next haddress =>
      cases h
      exact .manager (mt isAddress_eq_true_iff.2 haddress)
  not_refuses := by
    intro value manager reason ⟨haddress, _⟩ hrefuses
    generalize hname : "ARM_RESOURCE_MANAGER_ENDPOINT" = name at hrefuses
    cases hrefuses with
    | manager h => exact h haddress
    | _ => exact absurd hname (by decide)
  ne_subscription := by decide

theorem worksIn_importProtection :
    WorksIn "ARM_PROVIDER_STRICT" useImportProtection
      (fun settings importProtection => { settings with importProtection }) WritesFlag where
  ok := by
    intro settings value after h
    unfold useImportProtection at h
    split at h
    next flag hflag =>
      cases h
      exact ⟨flag, truthValue?_eq_some_iff.1 hflag, rfl⟩
    next => cases h
  error := by
    intro settings value reason h
    unfold useImportProtection at h
    split at h
    next => cases h
    next hnone =>
      cases h
      refine .importProtection fun flag hflag => ?_
      exact absurd (hnone.symm.trans (truthValue?_eq_some_iff.2 hflag)) nofun
  not_refuses := by
    intro value flag reason hflag hrefuses
    generalize hname : "ARM_PROVIDER_STRICT" = name at hrefuses
    cases hrefuses with
    | importProtection h => exact h flag hflag
    | _ => exact absurd hname (by decide)
  ne_subscription := by decide

/-- The span is that of the seconds which the text writes. -/
def MeansSeconds (text : String) (span : Millis) : Prop :=
  ∃ seconds, WritesPositive text seconds ∧ span = seconds * 1000

/-- The span is that of the minutes which the text writes, and its seconds are below the limit. -/
def MeansMinutes (text : String) (span : Millis) : Prop :=
  ∃ minutes, WritesPositive text minutes ∧ 60 * minutes < Nat.pow 2 64 ∧ span = 60 * minutes * 1000

/-- A text that writes no positive number is not read. -/
theorem not_writesPositive_of_positive? {text : String} (h : positive? text = none) (number : Nat) :
    ¬ WritesPositive text number := by
  intro hwrites
  exact absurd (h.symm.trans (positive?_eq_some_iff.2 hwrites)) nofun

theorem worksIn_pollInterval :
    WorksIn "ARM_POLL_INTERVAL_SECONDS" usePollInterval
      (fun settings pollInterval => { settings with pollInterval }) MeansSeconds where
  ok := by
    intro settings value after h
    unfold usePollInterval at h
    split at h
    next seconds hseconds =>
      cases h
      exact ⟨_, ⟨seconds, positive?_eq_some_iff.1 hseconds, rfl⟩, rfl⟩
    next => cases h
  error := by
    intro settings value reason h
    unfold usePollInterval at h
    split at h
    next => cases h
    next hnone =>
      cases h
      exact .pollInterval (not_writesPositive_of_positive? hnone)
  not_refuses := by
    intro value span reason ⟨seconds, hseconds, _⟩ hrefuses
    generalize hname : "ARM_POLL_INTERVAL_SECONDS" = name at hrefuses
    cases hrefuses with
    | pollInterval h => exact h seconds hseconds
    | _ => exact absurd hname (by decide)
  ne_subscription := by decide

theorem worksIn_operationTimeout :
    WorksIn "ARM_OPERATION_TIMEOUT_MINUTES" useOperationTimeout
      (fun settings operationTimeout => { settings with operationTimeout }) MeansMinutes where
  ok := by
    intro settings value after h
    unfold useOperationTimeout at h
    split at h
    next minutes hminutes =>
      rw [Nat.mul_comm] at h
      split at h
      next hshort =>
        cases h
        exact ⟨_, ⟨minutes, positive?_eq_some_iff.1 hminutes, hshort, rfl⟩, rfl⟩
      next => cases h
    next => cases h
  error := by
    intro settings value reason h
    unfold useOperationTimeout at h
    split at h
    next minutes hminutes =>
      rw [Nat.mul_comm] at h
      split at h
      next => cases h
      next hlong =>
        cases h
        exact .tooLong (positive?_eq_some_iff.1 hminutes) (Nat.le_of_not_lt hlong)
    next hnone =>
      cases h
      exact .operationTimeout (not_writesPositive_of_positive? hnone)
  not_refuses := by
    intro value span reason ⟨minutes, hminutes, hshort, _⟩ hrefuses
    generalize hname : "ARM_OPERATION_TIMEOUT_MINUTES" = name at hrefuses
    cases hrefuses with
    | operationTimeout h => exact h minutes hminutes
    | tooLong h hlong =>
      rw [h.unique hminutes] at hlong
      exact Nat.not_lt.2 hlong hshort
    | _ => exact absurd hname (by decide)
  ne_subscription := by decide

end PrivateLink.Settings
