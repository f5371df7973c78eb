import PrivateLink.Manager.Identifier

/-!
# What identifiers are made of

Every key and every value of an identifier is a segment: it is not empty and holds no slash.
Segments are all that is needed the other way round, too: keys and values that are segments are read
back from the text that they are written in.

* `parse_written`: reading back keys and values;
* `isSegment_of_parse`: what is read is made of segments.
-/

namespace PrivateLink.Manager.Identifier

/-- The text can stand between two slashes of an identifier. -/
def IsSegment (text : String) : Prop :=
  text ≠ "" ∧ '/' ∉ text.toList

instance (text : String) : Decidable (IsSegment text) :=
  inferInstanceAs (Decidable (text ≠ "" ∧ '/' ∉ text.toList))

theorem IsSegment.toList_ne_nil {text : String} (h : IsSegment text) : text.toList ≠ [] := by
  intro hnil
  exact h.1 (String.toList_eq_nil_iff.1 hnil)

/-! ### Splitting at slashes -/

theorem segments_eq_splitOn (chars : List Char) : segments chars = chars.splitOn '/' := by
  induction chars with
  | nil => rfl
  | cons c rest ih =>
    obtain ⟨head, tail, heq⟩ := List.exists_cons_of_ne_nil (List.splitOn_ne_nil '/' rest)
    rw [List.splitOn_cons_eq_if_modifyHead, segments, ih, heq]
    simp

/-- No segment holds a slash. -/
theorem slash_notMem_of_mem_segments {chars segment : List Char} (h : segment ∈ segments chars) :
    '/' ∉ segment := by
  induction chars generalizing segment with
  | nil =>
    rw [List.mem_singleton.1 h]
    exact List.not_mem_nil
  | cons c rest ih =>
    rw [segments] at h
    split at h
    next =>
      rw [List.mem_singleton.1 h]
      exact List.not_mem_nil
    next head tail heq =>
      rw [heq] at ih
      split at h
      -- A slash begins a new segment, and any other character goes to the front of the first one.
      next =>
        obtain rfl | hmem := List.mem_cons.1 h
        · exact List.not_mem_nil
        · exact ih hmem
      next hc =>
        obtain rfl | hmem := List.mem_cons.1 h
        · exact List.not_mem_cons_of_ne_of_not_mem (Ne.symm hc) (ih List.mem_cons_self)
        · exact ih (List.mem_cons_of_mem head hmem)

/-- Slashes at the end are dropped only where there are any. -/
theorem dropFinalSlashes_append {value : List Char} (hne : value ≠ []) (h : '/' ∉ value)
    (chars : List Char) : dropFinalSlashes (chars ++ value) = chars ++ value := by
  rw [dropFinalSlashes, List.reverse_append]
  cases hreverse : value.reverse with
  | nil => exact absurd (List.reverse_eq_nil_iff.1 hreverse) hne
  | cons c rest =>
    have hc : c ≠ '/' := by
      intro hslash
      have hmem : c ∈ value.reverse := by rw [hreverse]; exact List.mem_cons_self
      exact h (hslash ▸ List.mem_reverse.1 hmem)
    rw [List.cons_append, List.dropWhile_cons_of_neg (by simpa using hc), ← List.cons_append,
      ← hreverse, ← List.reverse_append, List.reverse_reverse]

/-! ### Reading back what is written -/

/-- Keys and values, each after a slash. -/
def written : List (String × String) → List Char
  | [] => []
  | (key, value) :: rest => '/' :: (key.toList ++ '/' :: (value.toList ++ written rest))

/-- Keys and values that can stand in an identifier. -/
def AreSegments (pairs : List (String × String)) : Prop :=
  ∀ pair ∈ pairs, IsSegment pair.1 ∧ IsSegment pair.2

/-- What is written does not end with a slash. -/
theorem exists_written_eq {pairs : List (String × String)} (hne : pairs ≠ [])
    (h : AreSegments pairs) :
    ∃ front last, written pairs = '/' :: (front ++ last) ∧ last ≠ [] ∧ '/' ∉ last := by
  induction pairs with
  | nil => exact absurd rfl hne
  | cons pair rest ih =>
    obtain ⟨key, value⟩ := pair
    obtain ⟨-, hvalue⟩ := h (key, value) List.mem_cons_self
    cases rest with
    | nil =>
      refine ⟨key.toList ++ ['/'], value.toList, ?_, hvalue.toList_ne_nil, hvalue.2⟩
      simp [written]
    | cons next rest =>
      obtain ⟨front, last, heq, hlast⟩ :=
        ih (List.cons_ne_nil _ _) fun pair hmem => h pair (List.mem_cons_of_mem _ hmem)
      -- The last value is that of the remaining pairs.
      refine ⟨key.toList ++ '/' :: (value.toList ++ '/' :: front), last, ?_, hlast⟩
      rw [written, heq]
      simp

/-- The segments of what is written are the keys and the values. -/
theorem segments_tail_written {pairs : List (String × String)} (hne : pairs ≠ [])
    (h : AreSegments pairs) :
    segments (written pairs).tail = pairs.flatMap fun pair => [pair.1.toList, pair.2.toList] := by
  induction pairs with
  | nil => exact absurd rfl hne
  | cons pair rest ih =>
    obtain ⟨key, value⟩ := pair
    obtain ⟨hkey, hvalue⟩ := h (key, value) List.mem_cons_self
    have hrest : AreSegments rest := fun pair hmem => h pair (List.mem_cons_of_mem _ hmem)
    rw [segments_eq_splitOn] at ih ⊢
    rw [written, List.tail_cons, List.splitOn_append_cons_self_of_not_mem hkey.2,
      List.flatMap_cons]
    cases rest with
    | nil => rw [written, List.append_nil, List.splitOn_eq_singleton hvalue.2]; rfl
    | cons next rest =>
      have hslash : written (next :: rest) = '/' :: (written (next :: rest)).tail := rfl
      rw [hslash, List.splitOn_append_cons_self_of_not_mem hvalue.2,
        ih (List.cons_ne_nil _ _) hrest]
      rfl

/-- Segments are paired up when they are the keys and the values of the pairs, one after the other. -/
theorem pairs?_eq_some_iff {segments : List (List Char)} {raw : List (List Char × List Char)} :
    pairs? segments = some raw ↔ segments = raw.flatMap fun pair => [pair.1, pair.2] := by
  induction segments using pairs?.induct generalizing raw with
  | case1 => rcases raw with _ | ⟨pair, raw⟩ <;> simp [pairs?]
  | case2 segment => rcases raw with _ | ⟨pair, raw⟩ <;> simp [pairs?]
  | case3 key value rest ih =>
    rcases raw with _ | ⟨⟨first, second⟩, raw⟩
    · simp [pairs?]
    · constructor
      · intro h
        obtain ⟨found, hfound, heq⟩ := Option.map_eq_some_iff.1 h
        cases heq
        rw [ih.1 hfound]
        rfl
      · intro h
        obtain ⟨rfl, rfl, hrest⟩ : key = first ∧ value = second ∧ _ := by simpa using h
        rw [pairs?, ih.2 hrest, Option.map_some]

theorem named_map {pairs : List (String × String)} (h : ∀ pair ∈ pairs, pair.1 ≠ "" ∧ pair.2 ≠ "") :
    named (pairs.map fun pair => (pair.1.toList, pair.2.toList)) = .ok pairs := by
  induction pairs with
  | nil => rfl
  | cons pair rest ih =>
    obtain ⟨key, value⟩ := pair
    obtain ⟨⟨hkey, hvalue⟩, hrest⟩ := List.forall_mem_cons.1 h
    rw [List.map_cons, named, if_neg (by simpa using hkey), if_neg (by simpa using hvalue),
      ih hrest, String.ofList_toList, String.ofList_toList]
    rfl

/-- **Reading back keys and values.** An identifier that is written with keys and values that are
segments is read with just these. -/
theorem parse_written {pairs : List (String × String)} (hne : pairs ≠ []) (h : AreSegments pairs) :
    parse (String.ofList (written pairs)) = (pairs.foldl Parts.add {}).identifier := by
  obtain ⟨front, last, heq, hlast, hslash⟩ := exists_written_eq hne h
  have hsegments := segments_tail_written hne h
  rw [heq, List.tail_cons] at hsegments
  have hraw : pairs? (segments (front ++ last)) =
      some (pairs.map fun pair => (pair.1.toList, pair.2.toList)) := by
    rw [pairs?_eq_some_iff, hsegments, List.flatMap_map]
  unfold parse
  rw [String.toList_ofList, heq]
  have hnamed := named_map fun pair hmem => ⟨(h pair hmem).1.1, (h pair hmem).2.1⟩
  simp only [dropFinalSlashes_append hlast hslash, hraw, hnamed]
  rfl

/-! ### What is read -/

theorem mem_of_mem_pairs? {segments : List (List Char)} {pairs : List (List Char × List Char)}
    (h : pairs? segments = some pairs) {pair : List Char × List Char} (hmem : pair ∈ pairs) :
    pair.1 ∈ segments ∧ pair.2 ∈ segments := by
  have hmade := pairs?_eq_some_iff.1 h
  constructor <;> rw [hmade, List.mem_flatMap] <;> exact ⟨pair, hmem, by simp⟩

/-- Keys and values that can be named are not empty. -/
theorem exists_of_named_cons {key value : List Char} {rest : List (List Char × List Char)}
    {pairs : List (String × String)} (h : named ((key, value) :: rest) = .ok pairs) :
    key.isEmpty ≠ true ∧ value.isEmpty ≠ true ∧ ∃ found, named rest = .ok found ∧
      pairs = (String.ofList key, String.ofList value) :: found := by
  rw [named] at h
  split at h
  next => cases h
  next hkey =>
    split at h
    next => cases h
    next hvalue =>
      cases hrest : named rest with
      | error fault =>
        rw [hrest] at h
        cases h
      | ok found =>
        rw [hrest] at h
        cases h
        exact ⟨hkey, hvalue, found, rfl, rfl⟩

theorem named_eq_ok_iff {raw : List (List Char × List Char)} {pairs : List (String × String)} :
    named raw = .ok pairs ↔ raw = pairs.map (fun pair => (pair.1.toList, pair.2.toList)) ∧
      ∀ pair ∈ pairs, pair.1 ≠ "" ∧ pair.2 ≠ "" := by
  constructor
  · intro h
    induction raw generalizing pairs with
    | nil =>
      cases h
      exact ⟨rfl, List.forall_mem_nil _⟩
    | cons head rest ih =>
      obtain ⟨key, value⟩ := head
      obtain ⟨hkey, hvalue, found, hfound, rfl⟩ := exists_of_named_cons h
      obtain ⟨rfl, hne⟩ := ih hfound
      have hpair : String.ofList key ≠ "" ∧ String.ofList value ≠ "" := by
        simpa using And.intro hkey hvalue
      exact ⟨by simp, List.forall_mem_cons.2 ⟨hpair, hne⟩⟩
  · rintro ⟨rfl, hne⟩
    exact named_map hne

/-- Keys and values without slashes that can be named are segments. -/
theorem areSegments_of_named {raw : List (List Char × List Char)}
    {pairs : List (String × String)} (h : named raw = .ok pairs)
    (hslash : ∀ pair ∈ raw, '/' ∉ pair.1 ∧ '/' ∉ pair.2) : AreSegments pairs := by
  obtain ⟨rfl, hne⟩ := named_eq_ok_iff.1 h
  intro pair hmem
  obtain ⟨hkey, hvalue⟩ := hslash _ (List.mem_map_of_mem hmem)
  exact ⟨⟨(hne pair hmem).1, hkey⟩, (hne pair hmem).2, hvalue⟩

/-- What has been found of an identifier is made of segments. -/
structure Parts.MadeOfSegments (parts : Parts) : Prop where
  subscription : ∀ subscription ∈ parts.subscription, IsSegment subscription
  resourceGroup : ∀ group ∈ parts.resourceGroup, IsSegment group
  provider : ∀ provider ∈ parts.provider, IsSegment provider
  path : AreSegments parts.path

/-- Nothing has been found before the first key. -/
theorem Parts.MadeOfSegments.empty : Parts.MadeOfSegments {} where
  subscription _ h := nomatch h
  resourceGroup _ h := nomatch h
  provider _ h := nomatch h
  path _ h := nomatch h

/-- One more key and value are kept in one place or the other. -/
theorem Parts.MadeOfSegments.add {parts : Parts} (h : parts.MadeOfSegments)
    {pair : String × String} (hpair : IsSegment pair.1 ∧ IsSegment pair.2) :
    (parts.add pair).MadeOfSegments := by
  obtain ⟨hsubscription, hgroup, hprovider, hpath⟩ := h
  unfold Parts.add
  split
  next => exact ⟨by rintro _ ⟨⟩; exact hpair.2, hgroup, hprovider, hpath⟩
  next =>
    split
    next => exact ⟨hsubscription, by rintro _ ⟨⟩; exact hpair.2, hprovider, hpath⟩
    next =>
      split
      next => exact ⟨hsubscription, hgroup, by rintro _ ⟨⟩; exact hpair.2, hpath⟩
      next =>
        refine ⟨hsubscription, hgroup, hprovider, fun other hmem => ?_⟩
        cases List.mem_append.1 hmem with
        | inl hin => exact hpath other hin
        | inr hlast =>
          rw [List.mem_singleton.1 hlast]
          exact hpair

theorem Parts.MadeOfSegments.foldl {pairs : List (String × String)} (hpairs : AreSegments pairs)
    {parts : Parts} (h : parts.MadeOfSegments) : (pairs.foldl Parts.add parts).MadeOfSegments := by
  induction pairs generalizing parts with
  | nil => exact h
  | cons pair rest ih =>
    exact ih (fun pair hmem => hpairs pair (List.mem_cons_of_mem _ hmem))
      (h.add (hpairs pair List.mem_cons_self))

/-- An identifier is complete when a subscription and a resource group were found, and then it has
the parts that were found. -/
theorem Parts.identifier_eq_ok_iff {parts : Parts} {identifier : Identifier} :
    parts.identifier = .ok identifier ↔
      parts.subscription = some identifier.subscription ∧
        parts.resourceGroup = some identifier.resourceGroup ∧
        parts.provider = identifier.provider ∧ parts.path = identifier.path := by
  obtain ⟨_ | subscription, _ | group, provider, path⟩ := parts <;>
    obtain ⟨given, givenGroup, givenProvider, givenPath⟩ := identifier <;>
    simp [Parts.identifier]

/-- An identifier is read from the segments behind the first slash, which are paired up and named. -/
theorem parse_eq_ok_iff {id : String} {identifier : Identifier} :
    parse id = .ok identifier ↔ ∃ rest raw pairs, id.toList = '/' :: rest ∧
      pairs? (segments (dropFinalSlashes rest)) = some raw ∧ named raw = .ok pairs ∧
        (pairs.foldl Parts.add {}).identifier = .ok identifier := by
  unfold parse
  constructor
  · intro h
    split at h
    next => cases h
    next rest heq =>
      split at h
      next => cases h
      next raw hraw =>
        cases hnamed : named raw with
        | error fault =>
          rw [hnamed] at h
          cases h
        | ok pairs =>
          rw [hnamed] at h
          exact ⟨rest, raw, pairs, heq, hraw, hnamed, h⟩
    next => cases h
  · rintro ⟨rest, raw, pairs, heq, hraw, hnamed, h⟩
    simp only [heq, hraw, hnamed]
    exact h

/-- **What is read is made of segments.** -/
theorem isSegment_of_parse {id : String} {identifier : Identifier}
    (h : parse id = .ok identifier) :
    IsSegment identifier.subscription ∧ IsSegment identifier.resourceGroup ∧
      (∀ provider ∈ identifier.provider, IsSegment provider) ∧ AreSegments identifier.path := by
  obtain ⟨rest, raw, pairs, -, hraw, hnamed, hidentifier⟩ := parse_eq_ok_iff.1 h
  have hpairs : AreSegments pairs := areSegments_of_named hnamed fun pair hmem =>
    ⟨slash_notMem_of_mem_segments (mem_of_mem_pairs? hraw hmem).1,
      slash_notMem_of_mem_segments (mem_of_mem_pairs? hraw hmem).2⟩
  have hparts : (pairs.foldl Parts.add {}).MadeOfSegments := .foldl hpairs .empty
  obtain ⟨hsubscription, hgroup, hprovider, hpath⟩ := Parts.identifier_eq_ok_iff.1 hidentifier
  exact ⟨hparts.subscription _ hsubscription, hparts.resourceGroup _ hgroup,
    hprovider ▸ hparts.provider, hpath ▸ hparts.path⟩

/-- A value that is looked up in an identifier is a segment. -/
theorem isSegment_of_get? {id key value : String} {identifier : Identifier}
    (h : parse id = .ok identifier) (hvalue : identifier.get? key = some value) :
    IsSegment value := by
  have hpath := (isSegment_of_parse h).2.2.2
  rw [get?, List.lookup_eq_some_iff] at hvalue
  obtain ⟨front, back, heq, -⟩ := hvalue
  exact (hpath (key, value) (by rw [heq]; simp)).2

end PrivateLink.Manager.Identifier
