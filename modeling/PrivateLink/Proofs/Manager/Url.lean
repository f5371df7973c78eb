import PrivateLink.Manager.Url

/-!
# Reading back addresses

The path of an address is changed on its way: dot segments are resolved, and characters are
percent-encoded. What is plain gets through all this unharmed, and is there again when the path is
cut at slashes and decoded, the way servers read it.

* `decode?_encode`: what was percent-encoded is decoded again;
* `target_of_parse?`: what is requested at an address made of its parts;
* `decode?_segments`: the segments at the end of a path are read back.
-/

namespace PrivateLink.Manager.Url

/-! ### Percent-encoding -/

theorem hexValue?_upperHex : ∀ n < 16, Json.hexValue? (upperHex n) = some n := by
  decide

theorem isSlash_upperHex : ∀ n < 16, isSlash (upperHex n) = false := by
  decide

theorem upperHex_ne_question : ∀ n < 16, upperHex n ≠ '?' := by
  decide

theorem decodedBytes_cons {c : Char} (h : c ≠ '%') (rest : List Char) :
    decodedBytes (c :: rest) = String.utf8EncodeChar c ++ decodedBytes rest := by
  rw [decodedBytes]
  rintro high low rest rfl
  exact (h rfl).elim

theorem decodedBytes_encodeByte (byte : UInt8) (rest : List Char) :
    decodedBytes (encodeByte byte ++ rest) = byte :: decodedBytes rest := by
  have hbyte : byte.toNat < 256 := byte.toNat_lt
  show decodedBytes ('%' :: upperHex (byte.toNat / 16) :: upperHex (byte.toNat % 16) :: rest) = _
  rw [decodedBytes, hexValue?_upperHex _ (by omega), hexValue?_upperHex _ (by omega)]
  dsimp only
  rw [Nat.div_add_mod, UInt8.ofNat_toNat]

theorem decodedBytes_encodeBytes (bytes : List UInt8) (rest : List Char) :
    decodedBytes (bytes.flatMap encodeByte ++ rest) = bytes ++ decodedBytes rest := by
  induction bytes with
  | nil => rfl
  | cons byte bytes ih =>
    rw [List.flatMap_cons, List.append_assoc, decodedBytes_encodeByte, ih, List.cons_append]

theorem decodedBytes_encode (reserved : Char → Bool) {chars : List Char} (h : '%' ∉ chars) :
    decodedBytes (encode reserved chars) = chars.flatMap String.utf8EncodeChar := by
  induction chars with
  | nil => rfl
  | cons c chars ih =>
    obtain ⟨hc, hchars⟩ := not_or.1 (mt List.mem_cons.2 h)
    rw [encode, List.flatMap_cons, List.flatMap_cons, ← encode, ← ih hchars]
    split
    · exact decodedBytes_encodeBytes _ _
    · exact decodedBytes_cons (Ne.symm hc) _

/-- **What was percent-encoded is decoded again.** A percent sign of its own is not, since it is
sent as it is. -/
theorem decode?_encode (reserved : Char → Bool) {text : String} (h : '%' ∉ text.toList) :
    decode? (encode reserved text.toList) = some text := by
  rw [decode?, decodedBytes_encode reserved h, ← List.utf8Encode, String.fromUTF8?,
    dif_pos ByteArray.isValidUTF8_utf8Encode]
  show some (String.ofList text.toList) = _
  rw [String.ofList_toList]

/-- What a percent-encoded text is made of. -/
theorem mem_encode {reserved : Char → Bool} {chars : List Char} {d : Char}
    (h : d ∈ encode reserved chars) :
    d = '%' ∨ (∃ n < 16, d = upperHex n) ∨ d ∈ chars ∧ reserved d = false := by
  obtain ⟨c, hc, hd⟩ := List.mem_flatMap.1 h
  split at hd
  next =>
    obtain ⟨byte, -, hd⟩ := List.mem_flatMap.1 hd
    have hbyte : byte.toNat < 256 := byte.toNat_lt
    simp only [encodeByte, List.mem_cons, List.not_mem_nil, or_false] at hd
    obtain rfl | rfl | rfl := hd
    · exact .inl rfl
    · exact .inr (.inl ⟨_, by omega, rfl⟩)
    · exact .inr (.inl ⟨_, by omega, rfl⟩)
  next hplain =>
    obtain rfl := List.mem_singleton.1 hd
    refine .inr (.inr ⟨hc, Bool.eq_false_iff.2 fun hreserved => hplain ?_⟩)
    simp [hreserved]

theorem isSlash_encode {chars : List Char} (h : ∀ c ∈ chars, isSlash c = false) :
    ∀ c ∈ encode isReservedInPath chars, isSlash c = false := by
  intro c hmem
  obtain rfl | ⟨n, hn, rfl⟩ | ⟨hmem, -⟩ := mem_encode hmem
  · rfl
  · exact isSlash_upperHex n hn
  · exact h c hmem

theorem question_notMem_encode (chars : List Char) : '?' ∉ encode isReservedInPath chars := by
  intro hmem
  obtain heq | ⟨n, hn, heq⟩ | ⟨-, hreserved⟩ := mem_encode hmem
  · exact nomatch heq
  · exact upperHex_ne_question n hn heq.symm
  · exact nomatch hreserved

/-! ### Paths -/

/-- Characters that do not count in an address. -/
def inert : List Char := ['\t', '\n', '\r']

/-- Characters that do not stay in a path: those that end it and those that do not count. -/
def ending : List Char := '?' :: '#' :: inert

/-- Characters that do not stay in a segment: slashes and those that do not stay in a path. -/
def parting : List Char := '/' :: '\\' :: ending

/-- The text stands for itself as a segment of a path: all its characters stay there, none begins an
encoded byte, and it is no dot segment. -/
def IsPlain (text : String) : Prop :=
  (∀ c ∈ text.toList, c ∉ '%' :: parting) ∧ text ≠ "." ∧ text ≠ ".."

/-- What holds of each character of a text can be found out by going through the text. -/
theorem forall_mem_of_all {p : Char → Prop} [DecidablePred p] {chars : List Char}
    (h : (chars.all fun c => decide (p c)) = true) : ∀ c ∈ chars, p c :=
  fun c hc => of_decide_eq_true (List.all_eq_true.1 h c hc)

instance (text : String) : Decidable (IsPlain text) :=
  have hiff : ((text.toList.all fun c => decide (c ∉ '%' :: parting)) = true ∧ text ≠ "." ∧
      text ≠ "..") ↔ IsPlain text :=
    and_congr_left fun _ => ⟨forall_mem_of_all, fun h => List.all_eq_true.2 fun c hc =>
      decide_eq_true (h c hc)⟩
  decidable_of_decidable_of_iff hiff

namespace IsPlain

variable {text : String} (h : IsPlain text)

include h

theorem percent_notMem : '%' ∉ text.toList :=
  fun hmem => h.1 _ hmem List.mem_cons_self

theorem notMem_ending : ∀ c ∈ text.toList, c ∉ ending := fun c hmem hc =>
  h.1 c hmem (List.mem_cons_of_mem _ (List.mem_cons_of_mem _ (List.mem_cons_of_mem _ hc)))

theorem isSlash_eq_false : ∀ c ∈ text.toList, isSlash c = false := by
  intro c hmem
  have hc := h.1 c hmem
  simp only [parting, List.mem_cons, not_or] at hc
  simp [isSlash, hc]

end IsPlain

theorem segments_eq_splitOnP (chars : List Char) : segments chars = chars.splitOnP isSlash := by
  induction chars with
  | nil => rfl
  | cons c rest ih =>
    obtain ⟨head, tail, heq⟩ := List.exists_cons_of_ne_nil (List.splitOnP_ne_nil isSlash rest)
    rw [List.splitOnP_cons_eq_if_modifyHead, segments, ih, heq]
    simp

/-- Parts with separators before them are cut apart again. -/
theorem splitOnP_append_flatMap {p : Char → Bool} {separator : Char} (hp : p separator = true)
    (first : List Char) {parts : List (List Char)} (h : ∀ part ∈ parts, ∀ c ∈ part, p c = false) :
    (first ++ parts.flatMap fun part => separator :: part).splitOnP p =
      first.splitOnP p ++ parts := by
  induction parts generalizing first with
  | nil => simp
  | cons part parts ih =>
    obtain ⟨hpart, hparts⟩ := List.forall_mem_cons.1 h
    rw [List.flatMap_cons, List.cons_append, List.splitOnP_append_cons _ _ hp, ih part hparts,
      List.splitOnP_eq_singleton hpart, List.singleton_append]

/-- Segments with slashes before them are cut apart again. -/
theorem segments_append_flatMap (first : List Char) {parts : List (List Char)}
    (h : ∀ part ∈ parts, ∀ c ∈ part, isSlash c = false) :
    segments (first ++ parts.flatMap fun part => '/' :: part) = segments first ++ parts := by
  rw [segments_eq_splitOnP, splitOnP_append_flatMap rfl first h, segments_eq_splitOnP]

theorem segments_append_texts (first : List Char) {texts : List String}
    (h : ∀ text ∈ texts, IsPlain text) :
    segments (first ++ texts.flatMap fun text => '/' :: text.toList) =
      segments first ++ texts.map String.toList := by
  have hparts : ∀ part ∈ texts.map String.toList, ∀ c ∈ part, isSlash c = false := by
    intro part hpart
    obtain ⟨text, htext, rfl⟩ := List.mem_map.1 hpart
    exact (h text htext).isSlash_eq_false
  rw [← segments_append_flatMap first hparts, List.flatMap_map]

/-- Only a capital letter changes when it is made small. -/
theorem eq_of_toLower_eq {c d : Char} (hd : d.isLower = false) (h : c.toLower = d) : c = d := by
  unfold Char.toLower at h
  split at h
  next hcapital =>
    -- A small letter would have come out, which the character is not.
    subst h
    change (decide (c.val + 32 ≥ 'a'.val) && decide (c.val + 32 ≤ 'z'.val)) = false at hd
    simp [UInt32.le_iff_toNat_le] at hd hcapital
    omega
  next => exact h

theorem eq_of_map_toLower_eq {chars small : List Char} (hsmall : ∀ d ∈ small, d.isLower = false)
    (h : chars.map Char.toLower = small) : chars = small := by
  induction chars generalizing small with
  | nil => exact h
  | cons c chars ih =>
    subst h
    obtain ⟨hc, hchars⟩ := List.forall_mem_cons.1 hsmall
    rw [List.map_cons, ← eq_of_toLower_eq hc rfl, ← ih hchars rfl]

/-- A plain text is no dot segment in any spelling. -/
theorem IsPlain.not_dot {text : String} (h : IsPlain text) :
    isDot text.toList = false ∧ isDoubleDot text.toList = false := by
  have hpercent : '%' ∉ text.toList.map Char.toLower := by
    intro hmem
    obtain ⟨c, hc, hlower⟩ := List.mem_map.1 hmem
    rw [eq_of_toLower_eq (by decide) hlower] at hc
    exact h.percent_notMem hc
  have hdots : ∀ dots : String, (dots.toList.all fun d => decide (d.isLower = false)) = true →
      text ≠ dots → text.toList.map Char.toLower ≠ dots.toList := fun dots hsmall hne heq =>
    hne (String.toList_inj.1 (eq_of_map_toLower_eq (forall_mem_of_all hsmall) heq))
  have hencoded : ∀ dots : String, '%' ∈ dots.toList →
      text.toList.map Char.toLower ≠ dots.toList :=
    fun dots hmem heq => hpercent (heq ▸ hmem)
  constructor
  · simp only [isDot, Bool.or_eq_false_iff, beq_eq_false_iff_ne]
    exact ⟨hdots "." (by decide) h.2.1, hencoded "%2e" (by decide)⟩
  · simp only [isDoubleDot, Bool.or_eq_false_iff, beq_eq_false_iff_ne]
    exact ⟨⟨⟨hdots ".." (by decide) h.2.2, hencoded ".%2e" (by decide)⟩,
      hencoded "%2e." (by decide)⟩, hencoded "%2e%2e" (by decide)⟩

/-- Dot segments change only what stands before them. -/
theorem resolved_append (first last done : List (List Char)) :
    ∃ kept, resolved done (first ++ last) = resolved kept last := by
  induction first generalizing done with
  | nil => exact ⟨done, rfl⟩
  | cons segment first ih =>
    rw [List.cons_append, resolved]
    split
    · exact ih _
    · split <;> exact ih _

theorem resolved_of_plain {texts : List String} (h : ∀ text ∈ texts, IsPlain text)
    (done : List (List Char)) :
    resolved done (texts.map String.toList) = done.reverse ++ texts.map String.toList := by
  induction texts generalizing done with
  | nil => simp [resolved]
  | cons text texts ih =>
    obtain ⟨htext, htexts⟩ := List.forall_mem_cons.1 h
    obtain ⟨hdot, hdoubleDot⟩ := htext.not_dot
    rw [List.map_cons, resolved, hdot, hdoubleDot]
    simp [ih htexts]

/-- The segments at the end of a path are requested as they are, percent-encoded, when they are
plain. -/
theorem requestPath_append {base : List Char} (hbase : base = [] ∨ ∃ rest, base = '/' :: rest)
    {texts : List String} (hne : texts ≠ []) (h : ∀ text ∈ texts, IsPlain text) :
    ∃ before, requestPath (base ++ texts.flatMap fun text => '/' :: text.toList) =
      (before ++ texts.map String.toList).flatMap fun segment =>
        '/' :: encode isReservedInPath segment := by
  have hsegments : ∃ front,
      segments ((base ++ texts.flatMap fun text => '/' :: text.toList).drop 1) =
        front ++ texts.map String.toList := by
    obtain rfl | ⟨rest, rfl⟩ := hbase
    · obtain ⟨text, texts, rfl⟩ := List.exists_cons_of_ne_nil hne
      obtain ⟨htext, htexts⟩ := List.forall_mem_cons.1 h
      refine ⟨[], ?_⟩
      rw [List.nil_append, List.flatMap_cons, List.cons_append, List.drop_succ_cons,
        List.drop_zero, segments_append_texts _ htexts, segments_eq_splitOnP,
        List.splitOnP_eq_singleton htext.isSlash_eq_false]
      rfl
    · exact ⟨segments rest, segments_append_texts rest h⟩
  obtain ⟨front, hfront⟩ := hsegments
  obtain ⟨kept, hkept⟩ := resolved_append front (texts.map String.toList) []
  refine ⟨kept.reverse, ?_⟩
  rw [requestPath, hfront, hkept, resolved_of_plain h]

/-! ### Addresses -/

/-- The address of a server: a scheme, a host, and perhaps a path. -/
def IsServerAddress (text : String) : Prop :=
  ∃ scheme authority base : String, text = scheme ++ "://" ++ authority ++ base ∧
    (scheme = "http" ∨ scheme = "https") ∧
    authority ≠ "" ∧ (∀ c ∈ authority.toList, c ∉ parting) ∧
    (base.toList = [] ∨ ∃ rest, base.toList = '/' :: rest) ∧ ∀ c ∈ base.toList, c ∉ ending

theorem cut_append {stop : Char → Bool} {first : List Char} (hfirst : ∀ c ∈ first, stop c = false)
    {c : Char} (hc : stop c = true) (rest : List Char) :
    cut stop (first ++ c :: rest) = (first, c :: rest) := by
  have hpass : ∀ c ∈ first, (!stop c) = true := fun c hmem => by rw [hfirst c hmem]; rfl
  rw [cut, List.takeWhile_append_of_pos hpass, List.dropWhile_append_of_pos hpass,
    List.takeWhile_cons_of_neg (by simp [hc]), List.dropWhile_cons_of_neg (by simp [hc]),
    List.append_nil]

theorem cut_of_forall {stop : Char → Bool} {chars : List Char} (h : ∀ c ∈ chars, stop c = false) :
    cut stop chars = (chars, []) := by
  have hpass : ∀ c ∈ chars, (!stop c) = true := fun c hmem => by rw [h c hmem]; rfl
  rw [← List.append_nil chars, cut, List.takeWhile_append_of_pos hpass,
    List.dropWhile_append_of_pos hpass]
  rfl

/-- Nothing is taken off a text that begins and ends with visible characters and has no tab and no
line break in it. -/
theorem cleaned_eq {text : String} {first last : Char} {front rest : List Char}
    (hrest : text.toList = first :: rest) (hfront : text.toList = front ++ [last])
    (hfirst : 0x20 < first.toNat) (hlast : 0x20 < last.toNat)
    (hkept : ∀ c ∈ text.toList, c ∉ inert) :
    cleaned text = text.toList := by
  have hdropped : (text.toList.dropWhile fun c => decide (c.toNat ≤ 0x20)) = text.toList := by
    rw [hrest, List.dropWhile_cons_of_neg (by simpa using hfirst)]
  have hreversed : (text.toList.reverse.dropWhile fun c => decide (c.toNat ≤ 0x20)) =
      text.toList.reverse := by
    rw [hfront, List.reverse_append, List.reverse_singleton, List.singleton_append,
      List.dropWhile_cons_of_neg (by simpa using hlast)]
  rw [cleaned, hdropped, hreversed, List.reverse_reverse]
  refine List.filter_eq_self.2 fun c hc => ?_
  have hc := hkept c hc
  simp only [inert, List.mem_cons, List.not_mem_nil, or_false, not_or] at hc
  simp [hc]

/-- An address that is put together of its parts is clean. -/
theorem cleaned_of_parts {text : String} {scheme authority path query : List Char}
    (htext : text.toList = scheme ++ "://".toList ++ authority ++ '/' :: path ++ '?' :: query)
    (hscheme : scheme = "http".toList ∨ scheme = "https".toList)
    (hauthority : ∀ c ∈ authority, c ∉ parting) (hpath : ∀ c ∈ '/' :: path, c ∉ ending)
    (hquery : ∃ last front, query = front ++ [last] ∧ 0x20 < last.toNat)
    (hkept : ∀ c ∈ query, c ∉ '#' :: inert) : cleaned text = text.toList := by
  have hhead : ∀ c ∈ scheme ++ "://".toList, c ∉ inert := by
    obtain rfl | rfl := hscheme <;> exact forall_mem_of_all (by decide)
  have hcounted : ∀ c ∈ text.toList, c ∉ inert := by
    rw [htext]
    intro c hc hinert
    have hending : c ∈ ending := List.mem_cons_of_mem _ (List.mem_cons_of_mem _ hinert)
    have hparting : c ∈ parting := List.mem_cons_of_mem _ (List.mem_cons_of_mem _ hending)
    obtain hc | hc := List.mem_append.1 hc
    · obtain hc | hc := List.mem_append.1 hc
      · obtain hc | hc := List.mem_append.1 hc
        · exact hhead c hc hinert
        · exact hauthority c hc hparting
      · exact hpath c hc hending
    · obtain rfl | hc := List.mem_cons.1 hc
      · exact absurd hinert (by decide)
      · exact hkept c hc (List.mem_cons_of_mem _ hinert)
  obtain ⟨rest, hrest⟩ : ∃ rest, text.toList = 'h' :: rest := by
    obtain rfl | rfl := hscheme <;> exact ⟨_, htext⟩
  obtain ⟨last, front, rfl, hlast⟩ := hquery
  have hback : text.toList =
      (scheme ++ "://".toList ++ authority ++ '/' :: path ++ '?' :: front) ++ [last] := by
    rw [htext, ← List.cons_append, ← List.append_assoc]
  exact cleaned_eq hrest hback (by decide) hlast hcounted

theorem scheme?_of_http {scheme : List Char} (hscheme : scheme = "http".toList ∨
    scheme = "https".toList) (rest : List Char) :
    ∃ secure, scheme? (scheme ++ ':' :: rest) = some (secure, rest) := by
  obtain rfl | rfl := hscheme
  · rw [scheme?, cut_append (forall_mem_of_all (by decide)) (by decide)]
    exact ⟨false, rfl⟩
  · rw [scheme?, cut_append (forall_mem_of_all (by decide)) (by decide)]
    exact ⟨true, rfl⟩

/-- The path and the query of an address are what is requested. -/
theorem target_of_parse? {text : String} {scheme authority path query : List Char} {found : Url}
    (htext : cleaned text = scheme ++ "://".toList ++ authority ++ '/' :: path ++ '?' :: query)
    (hscheme : scheme = "http".toList ∨ scheme = "https".toList) (hne : authority ≠ [])
    (hauthority : ∀ c ∈ authority, c ∉ parting) (hpath : ∀ c ∈ '/' :: path, c ∉ ending)
    (hquery : '#' ∉ query) (h : parse? text = some found) :
    found.target = String.ofList (requestPath ('/' :: path) ++ requestQuery ('?' :: query)) := by
  have hslash : ∀ c ∈ authority, (isSlash c || c == '?' || c == '#') = false := by
    intro c hc
    have hc := hauthority c hc
    simp only [parting, ending, List.mem_cons, not_or] at hc
    simp [isSlash, hc]
  have hend : ∀ c ∈ '/' :: path, (c == '?' || c == '#') = false := by
    intro c hc
    have hc := hpath c hc
    simp only [ending, List.mem_cons, not_or] at hc
    simp [hc]
  obtain ⟨secure, hrest⟩ := scheme?_of_http hscheme
    ('/' :: '/' :: (authority ++ '/' :: (path ++ '?' :: query)))
  have hdropped : ('/' :: '/' :: (authority ++ '/' :: (path ++ '?' :: query))).dropWhile isSlash =
      authority ++ '/' :: (path ++ '?' :: query) := by
    obtain ⟨c, authority, rfl⟩ := List.exists_cons_of_ne_nil hne
    have hc := (List.forall_mem_cons.1 hslash).1
    simp only [Bool.or_eq_false_iff] at hc
    rw [List.dropWhile_cons_of_pos rfl, List.dropWhile_cons_of_pos rfl, List.cons_append,
      List.dropWhile_cons_of_neg (by simp [hc])]
  have hplace := cut_append hslash (c := '/') rfl (path ++ '?' :: query)
  have hpart := cut_append hend (c := '?') rfl query
  have hwhole : cut (· == '#') ('?' :: query) = ('?' :: query, []) := by
    refine cut_of_forall (List.forall_mem_cons.2 ⟨rfl, fun c hc => ?_⟩)
    rw [beq_eq_false_iff_ne]
    rintro rfl
    exact hquery hc
  have htext' : cleaned text =
      scheme ++ ':' :: '/' :: '/' :: (authority ++ '/' :: (path ++ '?' :: query)) := by
    rw [htext]
    simp
  rw [List.cons_append] at hpart
  simp only [parse?, htext', hrest, hdropped, hplace, hpart, hwhole, bind, Option.bind] at h
  cases hhost : host? authority with
  | none =>
    rw [hhost] at h
    cases h
  | some host =>
    rw [hhost] at h
    cases h
    rfl

/-- The segments at the end of a path are read back. -/
theorem decode?_segments {before : List (List Char)} {texts : List String} {query : List Char}
    (h : ∀ text ∈ texts, IsPlain text) :
    ∃ others,
      (segments ((((before ++ texts.map String.toList).flatMap fun segment =>
        '/' :: encode isReservedInPath segment) ++ '?' :: query).takeWhile (· ≠ '?'))).map decode? =
        others ++ texts.map some := by
  let requested := (before ++ texts.map String.toList).flatMap fun segment =>
    '/' :: encode isReservedInPath segment
  have hquestion : ∀ c ∈ requested, decide (c ≠ '?') = true := by
    intro c hc
    obtain ⟨segment, -, hc⟩ := List.mem_flatMap.1 hc
    rw [decide_eq_true_iff]
    rintro rfl
    obtain heq | hc := List.mem_cons.1 hc
    · exact nomatch heq
    · exact question_notMem_encode segment hc
  let encoded := texts.map fun text => encode isReservedInPath text.toList
  have hencoded : ∀ part ∈ encoded, ∀ c ∈ part, isSlash c = false := by
    intro part hpart
    obtain ⟨text, htext, rfl⟩ := List.mem_map.1 hpart
    exact isSlash_encode (h text htext).isSlash_eq_false
  have hdecoded : encoded.map decode? = texts.map some := by
    rw [List.map_map]
    exact List.map_congr_left fun text htext =>
      decode?_encode isReservedInPath (h text htext).percent_notMem
  have hrequested : requested =
      (before.flatMap fun segment => '/' :: encode isReservedInPath segment) ++
        encoded.flatMap fun part => '/' :: part := by
    simp [requested, encoded, List.flatMap_map]
  refine ⟨(segments (before.flatMap fun segment =>
    '/' :: encode isReservedInPath segment)).map decode?, ?_⟩
  rw [List.takeWhile_append_of_pos hquestion, List.takeWhile_cons_of_neg (by decide),
    List.append_nil]
  show (segments requested).map decode? = _
  rw [hrequested, segments_append_flatMap _ hencoded, List.map_append, hdecoded]

end PrivateLink.Manager.Url
