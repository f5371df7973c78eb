import Mathlib.Data.List.DropRight
import PrivateLink.Proofs.Manager.Identifier

/-!
# The components of an identifier

A text is an identifier when it is made of keys and values (`MadeOf`) of which some key is that of a
subscription and some key is that of a resource group. The components are then read off the keys and
values (`ComponentsOf`): subscription, resource group and namespace are the values under the first
keys of their kind, and the path is what is left over, in its order.

The loop that reads keys and values one by one says nothing of first keys. It looks at what it has
found so far, so the lemma about it (`foldl_add`) is about any such state: a component that has been
found stays, and from then on keys of its kind go to the path like any other.

* `parse_eq_ok_iff_componentsOf`: what is read, and from which texts;
* `parse_render`: components that are written out are read again;
* `parse_components`: both together, for every text.
-/

namespace PrivateLink.Manager.Identifier

variable {text : String} {pairs : List (String × String)} {identifier : Identifier}

/-! ### Keys and values -/

/-- The text is made of these keys and values: it begins with a slash, and what stands behind it,
without the slashes at the end, is cut at slashes into the first key, its value, the next key and so
on, of which none is empty. -/
def MadeOf (text : String) (pairs : List (String × String)) : Prop :=
  ∃ rest, text.toList = '/' :: rest ∧
    (rest.rdropWhile (· == '/')).splitOn '/' =
      pairs.flatMap (fun pair => [pair.1.toList, pair.2.toList]) ∧
    ∀ pair ∈ pairs, pair.1 ≠ "" ∧ pair.2 ≠ ""

/-- The key of a subscription. -/
def isSubscriptionKey (key : String) : Bool :=
  key == "subscriptions"

/-- The key of a resource group, in capital or small letters. -/
def isGroupKey (key : String) : Bool :=
  Text.equalIgnoringCase key "resourceGroups"

/-- The key of the namespace of a resource type. -/
def isProviderKey (key : String) : Bool :=
  key == "providers"

/-- The value under the first key of a kind. -/
def firstValue? (isKey : String → Bool) (pairs : List (String × String)) : Option String :=
  (pairs.find? fun pair => isKey pair.1).map (·.2)

/-- What is left over without the first key of a kind and its value. -/
def withoutFirst (isKey : String → Bool) (pairs : List (String × String)) :
    List (String × String) :=
  pairs.eraseP fun pair => isKey pair.1

/-- The components that are read off keys and values. -/
structure ComponentsOf (pairs : List (String × String)) (identifier : Identifier) : Prop where
  subscription : firstValue? isSubscriptionKey pairs = some identifier.subscription
  resourceGroup : firstValue? isGroupKey pairs = some identifier.resourceGroup
  provider : firstValue? isProviderKey pairs = identifier.provider
  path : withoutFirst isProviderKey (withoutFirst isGroupKey
    (withoutFirst isSubscriptionKey pairs)) = identifier.path

/-! ### Kinds of keys -/

theorem firstValue?_isSome_iff {isKey : String → Bool} :
    (firstValue? isKey pairs).isSome = true ↔ ∃ pair ∈ pairs, isKey pair.1 = true := by
  rw [firstValue?, Option.isSome_map, List.find?_isSome]

/-- The key of a subscription is no key of another kind. -/
theorem kinds_of_isSubscriptionKey {key : String} (h : isSubscriptionKey key = true) :
    isGroupKey key = false ∧ isProviderKey key = false := by
  obtain rfl : key = "subscriptions" := beq_iff_eq.1 h
  decide

/-- Neither is the key of a resource group. -/
theorem kinds_of_isGroupKey {key : String} (h : isGroupKey key = true) :
    isSubscriptionKey key = false ∧ isProviderKey key = false := by
  constructor
  · rw [← Bool.not_eq_true]
    intro hkey
    rw [(kinds_of_isSubscriptionKey hkey).1] at h
    exact Bool.false_ne_true h
  · rw [← Bool.not_eq_true]
    intro hkey
    obtain rfl : key = "providers" := beq_iff_eq.1 hkey
    exact absurd h (by decide)

/-! ### The loop -/

/-- What is left over of keys and values when the first value of a kind is looked for only as long as
none has been found. -/
def leftOver (found : Option String) (isKey : String → Bool) (pairs : List (String × String)) :
    List (String × String) :=
  if found.isSome then pairs else withoutFirst isKey pairs

section Loop

variable {found : Option String} {isKey : String → Bool} {pair : String × String}

theorem firstValue?_cons_of_isKey (h : isKey pair.1 = true) :
    firstValue? isKey (pair :: pairs) = some pair.2 := by
  simp [firstValue?, h]

theorem leftOver_cons_of_isKey (h : isKey pair.1 = true) :
    leftOver none isKey (pair :: pairs) = pairs := by
  simp [leftOver, withoutFirst, h]

/-- A key that is not looked for changes nothing of what is found. -/
theorem orElse_firstValue?_cons (h : found = none → isKey pair.1 = false) :
    (found <|> firstValue? isKey (pair :: pairs)) = (found <|> firstValue? isKey pairs) := by
  rcases found with _ | value
  · simp [firstValue?, h rfl]
  · rfl

/-- It is left over. -/
theorem leftOver_cons (h : found = none → isKey pair.1 = false) :
    leftOver found isKey (pair :: pairs) = pair :: leftOver found isKey pairs := by
  rcases found with _ | value
  · simp [leftOver, withoutFirst, h rfl]
  · rfl

end Loop

/-- **The loop over keys and values.** What has been found stays, what has not is the first value of
its kind, and the rest goes to the path. -/
theorem foldl_add (pairs : List (String × String)) (parts : Parts) :
    pairs.foldl Parts.add parts =
      { subscription := parts.subscription <|> firstValue? isSubscriptionKey pairs
        resourceGroup := parts.resourceGroup <|> firstValue? isGroupKey pairs
        provider := parts.provider <|> firstValue? isProviderKey pairs
        path := parts.path ++ leftOver parts.provider isProviderKey
          (leftOver parts.resourceGroup isGroupKey
            (leftOver parts.subscription isSubscriptionKey pairs)) } := by
  induction pairs generalizing parts with
  | nil => simp [firstValue?, leftOver, withoutFirst]
  | cons pair rest ih =>
    obtain ⟨subscription, group, provider, path⟩ := parts
    rw [List.foldl_cons, ih, Parts.add]
    -- The key is taken for the one component that it is looked for, or goes to the path.
    by_cases hsubscription : pair.1 = "subscriptions" ∧ subscription = none
    · obtain ⟨hkey, rfl⟩ := hsubscription
      have htaken : isSubscriptionKey pair.1 = true := beq_iff_eq.2 hkey
      obtain ⟨hgroup, hprovider⟩ := kinds_of_isSubscriptionKey htaken
      rw [if_pos ⟨hkey, rfl⟩, firstValue?_cons_of_isKey htaken, leftOver_cons_of_isKey htaken,
        orElse_firstValue?_cons fun _ => hgroup, orElse_firstValue?_cons fun _ => hprovider]
      rfl
    have hskipped : subscription = none → isSubscriptionKey pair.1 = false := fun hnone =>
      beq_eq_false_iff_ne.2 fun hkey => hsubscription ⟨hkey, hnone⟩
    rw [if_neg hsubscription, orElse_firstValue?_cons hskipped, leftOver_cons hskipped]
    by_cases hgroup : Text.equalIgnoringCase pair.1 "resourceGroups" = true ∧ group = none
    · obtain ⟨htaken, rfl⟩ := hgroup
      obtain ⟨-, hprovider⟩ := kinds_of_isGroupKey htaken
      rw [if_pos ⟨htaken, rfl⟩, firstValue?_cons_of_isKey htaken, leftOver_cons_of_isKey htaken,
        orElse_firstValue?_cons fun _ => hprovider]
      rfl
    have hskipped' : group = none → isGroupKey pair.1 = false := fun hnone =>
      (Bool.not_eq_true _).mp fun hkey => hgroup ⟨hkey, hnone⟩
    rw [if_neg hgroup, orElse_firstValue?_cons hskipped', leftOver_cons hskipped']
    by_cases hprovider : pair.1 = "providers" ∧ provider = none
    · obtain ⟨hkey, rfl⟩ := hprovider
      have htaken : isProviderKey pair.1 = true := beq_iff_eq.2 hkey
      rw [if_pos ⟨hkey, rfl⟩, firstValue?_cons_of_isKey htaken, leftOver_cons_of_isKey htaken]
      rfl
    have hskipped'' : provider = none → isProviderKey pair.1 = false := fun hnone =>
      beq_eq_false_iff_ne.2 fun hkey => hprovider ⟨hkey, hnone⟩
    rw [if_neg hprovider, orElse_firstValue?_cons hskipped'', leftOver_cons hskipped'']
    simp only [List.append_assoc, List.singleton_append]

/-- **What the loop comes to** are the components of the keys and values. -/
theorem identifier_foldl_add_iff :
    (pairs.foldl Parts.add {}).identifier = .ok identifier ↔ ComponentsOf pairs identifier := by
  have hall : pairs.foldl Parts.add {} =
      { subscription := firstValue? isSubscriptionKey pairs
        resourceGroup := firstValue? isGroupKey pairs
        provider := firstValue? isProviderKey pairs
        path := withoutFirst isProviderKey (withoutFirst isGroupKey
          (withoutFirst isSubscriptionKey pairs)) } := foldl_add pairs {}
  rw [Parts.identifier_eq_ok_iff, hall]
  exact ⟨fun ⟨hsubscription, hgroup, hprovider, hpath⟩ =>
    ⟨hsubscription, hgroup, hprovider, hpath⟩,
    fun h => ⟨h.subscription, h.resourceGroup, h.provider, h.path⟩⟩

/-! ### Texts -/

/-- The segments of a text are its keys and values. -/
theorem madeOf_iff : MadeOf text pairs ↔ ∃ rest raw, text.toList = '/' :: rest ∧
    pairs? (segments (dropFinalSlashes rest)) = some raw ∧ named raw = .ok pairs := by
  have hflat : ∀ segments raw, (pairs? segments = some raw ∧ named raw = .ok pairs) ↔
      raw = pairs.map (fun pair => (pair.1.toList, pair.2.toList)) ∧
        segments = pairs.flatMap (fun pair => [pair.1.toList, pair.2.toList]) ∧
        ∀ pair ∈ pairs, pair.1 ≠ "" ∧ pair.2 ≠ "" := by
    intro segments raw
    rw [pairs?_eq_some_iff, named_eq_ok_iff]
    constructor
    · rintro ⟨hsegments, rfl, hne⟩
      exact ⟨rfl, by rw [hsegments, List.flatMap_map], hne⟩
    · rintro ⟨rfl, hsegments, hne⟩
      exact ⟨by rw [hsegments, List.flatMap_map], rfl, hne⟩
  simp only [hflat, segments_eq_splitOn]
  constructor
  · rintro ⟨rest, hrest, hsegments⟩
    exact ⟨rest, _, hrest, rfl, hsegments⟩
  · rintro ⟨rest, raw, hrest, rfl, hsegments⟩
    exact ⟨rest, hrest, hsegments⟩

/-- **What is read off a text** are the components of the keys and values that it is made of. -/
theorem parse_eq_ok_iff_componentsOf :
    parse text = .ok identifier ↔ ∃ pairs, MadeOf text pairs ∧ ComponentsOf pairs identifier := by
  rw [parse_eq_ok_iff]
  constructor
  · rintro ⟨rest, raw, pairs, hrest, hraw, hnamed, hidentifier⟩
    exact ⟨pairs, madeOf_iff.2 ⟨rest, raw, hrest, hraw, hnamed⟩,
      identifier_foldl_add_iff.1 hidentifier⟩
  · rintro ⟨pairs, hmade, hcomponents⟩
    obtain ⟨rest, raw, hrest, hraw, hnamed⟩ := madeOf_iff.1 hmade
    exact ⟨rest, raw, pairs, hrest, hraw, hnamed, identifier_foldl_add_iff.2 hcomponents⟩

/-- There are components as soon as there is a subscription and a resource group. -/
theorem exists_componentsOf_iff :
    (∃ identifier, ComponentsOf pairs identifier) ↔
      (∃ pair ∈ pairs, isSubscriptionKey pair.1 = true) ∧
        ∃ pair ∈ pairs, isGroupKey pair.1 = true := by
  rw [← firstValue?_isSome_iff, ← firstValue?_isSome_iff]
  constructor
  · rintro ⟨identifier, h⟩
    exact ⟨by rw [h.subscription]; rfl, by rw [h.resourceGroup]; rfl⟩
  · rintro ⟨hsubscription, hgroup⟩
    obtain ⟨subscription, hsubscription⟩ := Option.isSome_iff_exists.1 hsubscription
    obtain ⟨group, hgroup⟩ := Option.isSome_iff_exists.1 hgroup
    exact ⟨⟨subscription, group, _, _⟩, hsubscription, hgroup, rfl, rfl⟩

/-! ### Writing components out again -/

/-- The components as keys and values, the path last. -/
def listed (identifier : Identifier) : List (String × String) :=
  ("subscriptions", identifier.subscription) :: ("resourceGroups", identifier.resourceGroup) ::
    ((identifier.provider.map fun provider => ("providers", provider)).toList ++ identifier.path)

theorem toList_join_eq_written (pairs : List (String × String)) :
    (String.join (pairs.map fun pair => "/" ++ pair.1 ++ "/" ++ pair.2)).toList =
      written pairs := by
  induction pairs with
  | nil => rfl
  | cons pair rest ih => simp [written, ih]

theorem render_eq (identifier : Identifier) :
    identifier.render = String.ofList (written identifier.listed) := by
  obtain ⟨subscription, group, provider, path⟩ := identifier
  have hpath := toList_join_eq_written path
  unfold render
  dsimp only
  generalize String.join (path.map fun pair => "/" ++ pair.1 ++ "/" ++ pair.2) = joined at hpath ⊢
  apply String.toList_inj.1
  rcases provider with _ | provider
  · change _ = (String.ofList (written
      (("subscriptions", subscription) :: ("resourceGroups", group) :: path))).toList
    simp [written, hpath]
  · change _ = (String.ofList (written (("subscriptions", subscription) ::
      ("resourceGroups", group) :: ("providers", provider) :: path))).toList
    simp [written, hpath]

/-- The components of what is written out are those that were written, as long as the path has no
key of a namespace when there is none. -/
theorem componentsOf_listed {identifier : Identifier}
    (h : identifier.provider = none → ∀ pair ∈ identifier.path, isProviderKey pair.1 = false) :
    ComponentsOf identifier.listed identifier := by
  obtain ⟨subscription, group, provider, path⟩ := identifier
  have hkeys : isSubscriptionKey "subscriptions" = true ∧
      isGroupKey "subscriptions" = false ∧ isProviderKey "subscriptions" = false ∧
      isGroupKey "resourceGroups" = true ∧ isProviderKey "resourceGroups" = false := by
    decide
  obtain ⟨hsubscription, hnoGroup, hnoProvider, hgroup, hnoProvider'⟩ := hkeys
  have hprovider : firstValue? isProviderKey
        ((provider.map fun provider => ("providers", provider)).toList ++ path) = provider ∧
      withoutFirst isProviderKey
        ((provider.map fun provider => ("providers", provider)).toList ++ path) = path := by
    rcases provider with _ | provider
    · have hnone : ∀ pair ∈ path, ¬ isProviderKey pair.1 = true := fun pair hmem =>
        (Bool.not_eq_true _).mpr (h rfl pair hmem)
      have hfind := List.find?_eq_none.2 hnone
      exact ⟨congrArg (Option.map _) hfind, List.eraseP_of_forall_not hnone⟩
    · exact ⟨rfl, rfl⟩
  obtain ⟨hfirst, hleft⟩ := hprovider
  constructor
  · rfl
  · simp [listed, firstValue?, hnoGroup, hgroup]
  · refine Eq.trans ?_ hfirst
    simp [listed, firstValue?, hnoProvider, hnoProvider']
  · refine Eq.trans ?_ hleft
    simp [listed, withoutFirst, hsubscription, hgroup]

/-- The path has a key of a namespace only if there is a namespace. -/
theorem ComponentsOf.path_of_provider (h : ComponentsOf pairs identifier)
    (hnone : identifier.provider = none) :
    ∀ pair ∈ identifier.path, isProviderKey pair.1 = false := by
  have hfind : firstValue? isProviderKey pairs = none := h.provider.trans hnone
  rw [firstValue?, Option.map_eq_none_iff, List.find?_eq_none] at hfind
  intro pair hmem
  rw [← h.path] at hmem
  have hpairs : pair ∈ pairs :=
    List.mem_of_mem_eraseP (List.mem_of_mem_eraseP (List.mem_of_mem_eraseP hmem))
  exact (Bool.not_eq_true _).mp (hfind pair hpairs)

/-- **Components that are written out are read again.** -/
theorem parse_render (h : parse text = .ok identifier) :
    parse identifier.render = .ok identifier := by
  obtain ⟨pairs, -, hcomponents⟩ := parse_eq_ok_iff_componentsOf.1 h
  obtain ⟨hsubscription, hgroup, hprovider, hpath⟩ := isSegment_of_parse h
  have hsegments : AreSegments identifier.listed := by
    have hkeys : IsSegment "subscriptions" ∧ IsSegment "resourceGroups" ∧ IsSegment "providers" := by
      decide
    refine List.forall_mem_cons.2 ⟨⟨hkeys.1, hsubscription⟩,
      List.forall_mem_cons.2 ⟨⟨hkeys.2.1, hgroup⟩, List.forall_mem_append.2 ⟨?_, hpath⟩⟩⟩
    intro pair hmem
    obtain ⟨provider, hfound, rfl⟩ := Option.map_eq_some_iff.1 (Option.mem_toList.1 hmem)
    exact ⟨hkeys.2.2, hprovider provider hfound⟩
  have hread := parse_written (List.cons_ne_nil _ _) hsegments
  rw [render_eq]
  exact hread.trans (identifier_foldl_add_iff.2 (componentsOf_listed hcomponents.path_of_provider))

/-! ### Every text -/

/-- **The components of a text.** They are the values under the first keys of their kind and all the
other keys and values in their order; a text has components when it is made of keys and values with
a subscription and a resource group; and components that are written out are read again. -/
theorem parse_components (text : String) :
    (∀ identifier, parse text = .ok identifier ↔
      ∃ pairs, MadeOf text pairs ∧ ComponentsOf pairs identifier) ∧
    ((∃ identifier, parse text = .ok identifier) ↔
      ∃ pairs, MadeOf text pairs ∧ (∃ pair ∈ pairs, isSubscriptionKey pair.1 = true) ∧
        ∃ pair ∈ pairs, isGroupKey pair.1 = true) ∧
    ∀ identifier, parse text = .ok identifier → parse identifier.render = .ok identifier := by
  refine ⟨fun identifier => parse_eq_ok_iff_componentsOf, ?_, fun identifier => parse_render⟩
  simp only [parse_eq_ok_iff_componentsOf, ← exists_componentsOf_iff]
  constructor
  · rintro ⟨identifier, pairs, hmade, hcomponents⟩
    exact ⟨pairs, hmade, identifier, hcomponents⟩
  · rintro ⟨pairs, hmade, identifier, hcomponents⟩
    exact ⟨identifier, pairs, hmade, hcomponents⟩

/-- Repeated keys go to the path, and slashes at the end do not count. -/
theorem parse_components_of_repeated_keys :
    let text := "/subscriptions/s/RESOURCEGROUPS/g/x/1/subscriptions/t/providers/p/providers/q//"
    let identifier : Identifier := ⟨"s", "g", some "p", [("x", "1"), ("subscriptions", "t"),
      ("providers", "q")]⟩
    parse text = .ok identifier ∧ parse identifier.render = .ok identifier := by
  intro text identifier
  have hread : parse text = .ok identifier := by decide +kernel
  exact ⟨hread, (parse_components text).2.2 identifier hread⟩

end PrivateLink.Manager.Identifier
