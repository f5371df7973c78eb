import Mathlib.Data.List.TakeWhile
import PrivateLink.Proofs.Manager.Address
import PrivateLink.Proofs.Manager.Identifier

/-!
# Addresses as they are written

The path of an address ends at the first question mark or number sign, and the query runs from there
to the next number sign. The client writes the address of an endpoint by putting its parts between
slashes. So the path has the segments that it should have, with the name of the endpoint as the last
one, just when the name holds none of the characters by which addresses are cut.

* `writtenPath_endpointUrl`: the path of the address of an endpoint;
* `locates_endpointUrl_iff`: when it is the path that it should be;
* `writtenPath_endpointUrl_eq_iff`: which endpoints share a path.
-/

namespace PrivateLink.Manager

namespace Url

/-- The character ends the path of an address. -/
def endsPath (c : Char) : Bool :=
  c == '?' || c == '#'

/-- The path of an address, with everything before it. -/
def writtenPath (url : String) : List Char :=
  (cut endsPath url.toList).1

/-- The query of an address, with its question mark. -/
def writtenQuery (url : String) : List Char :=
  (cut (· == '#') (cut endsPath url.toList).2).1

/-- The text can be written as one segment of a path: no address is cut in it. -/
def IsOneSegment (text : String) : Prop :=
  ∀ c ∈ text.toList, c ≠ '/' ∧ c ≠ '?' ∧ c ≠ '#'

instance (text : String) : Decidable (IsOneSegment text) :=
  have hiff : (text.toList.all fun c => decide (c ≠ '/' ∧ c ≠ '?' ∧ c ≠ '#')) = true ↔
      IsOneSegment text :=
    ⟨forall_mem_of_all, fun h => List.all_eq_true.2 fun c hc => decide_eq_true (h c hc)⟩
  decidable_of_decidable_of_iff hiff

theorem IsOneSegment.slash_notMem {text : String} (h : IsOneSegment text) : '/' ∉ text.toList :=
  fun hmem => (h '/' hmem).1 rfl

theorem IsOneSegment.endsPath_eq_false {text : String} (h : IsOneSegment text) :
    ∀ c ∈ text.toList, endsPath c = false := by
  intro c hmem
  obtain ⟨-, hquestion, hnumber⟩ := h c hmem
  simp [endsPath, hquestion, hnumber]

theorem IsPlain.isOneSegment {text : String} (h : IsPlain text) : IsOneSegment text := by
  intro c hmem
  have hc := h.1 c hmem
  simp only [parting, ending, List.mem_cons, not_or] at hc
  exact ⟨hc.2.1, hc.2.2.2.1, hc.2.2.2.2.1⟩

theorem writtenPath_eq_toList_iff {text : String} :
    writtenPath text = text.toList ↔ ∀ c ∈ text.toList, endsPath c = false := by
  simp [writtenPath, cut, List.takeWhile_eq_self_iff]

theorem cut_fst_append {stop : Char → Bool} {first : List Char}
    (hfirst : ∀ c ∈ first, stop c = false) (rest : List Char) :
    (cut stop (first ++ rest)).1 = first ++ (cut stop rest).1 :=
  List.takeWhile_append_of_pos fun c hmem => by rw [hfirst c hmem]; rfl

/-- What comes behind a character that stops does not matter. -/
theorem cut_fst_append_cons {stop : Char → Bool} {c : Char} (hc : stop c = true)
    (first rest : List Char) : (cut stop (first ++ c :: rest)).1 = (cut stop first).1 := by
  induction first with
  | nil => simp [cut, hc]
  | cons d first ih =>
    simp only [cut] at ih ⊢
    rw [List.cons_append, List.takeWhile_cons, List.takeWhile_cons, ih]

/-- Parts with slashes before them are cut apart again. -/
theorem splitOn_append_flatMap (first : List Char) {parts : List (List Char)}
    (h : ∀ part ∈ parts, '/' ∉ part) :
    (first ++ parts.flatMap fun part => '/' :: part).splitOn '/' = first.splitOn '/' ++ parts :=
  splitOnP_append_flatMap rfl first fun part hpart _ hc =>
    beq_eq_false_iff_ne.2 fun heq => h part hpart (heq ▸ hc)

end Url

open Url

/-- The segments below the manager in the address of an endpoint, up to its name. -/
def Client.endpointFolder (client : Client) (group : String) : List String :=
  ["subscriptions", client.subscription, "resourceGroups", group, "providers", "Microsoft.Network",
    "privateEndpoints"]

/-- The path of the address consists of that of the manager and the segments of the endpoint, the
last of which is its name, and the query is the version of the service. -/
structure Locates (client : Client) (group name url : String) : Prop where
  path : (writtenPath url).splitOn '/' = client.manager.toList.splitOn '/' ++
    (client.endpointFolder group ++ [name]).map String.toList
  query : writtenQuery url = "?api-version=2019-06-01".toList

section EndpointUrl

variable {client : Client} {group name : String}
  (hmanager : ∀ c ∈ client.manager.toList, endsPath c = false)
  (hsubscription : IsOneSegment client.subscription) (hgroup : IsOneSegment group)

theorem toList_endpointUrl (client : Client) (group name : String) :
    (client.endpointUrl group name).toList =
      (client.manager.toList ++
          ((client.endpointFolder group).flatMap fun text => '/' :: text.toList) ++ ['/']) ++
        (name.toList ++ '?' :: "api-version=2019-06-01".toList) := by
  simp [Client.endpointUrl, Client.resourceUrl, Client.endpointFolder, apiVersion]

include hsubscription hgroup in
theorem isOneSegment_endpointFolder : ∀ text ∈ client.endpointFolder group, IsOneSegment text := by
  simp only [Client.endpointFolder, List.forall_mem_cons]
  exact ⟨by decide, hsubscription, by decide, hgroup, by decide, by decide, by decide, nofun⟩

include hmanager hsubscription hgroup

/-- Before the name nothing ends the path. -/
theorem endsPath_before_name : ∀ c ∈ client.manager.toList ++
    ((client.endpointFolder group).flatMap fun text => '/' :: text.toList) ++ ['/'],
    endsPath c = false := by
  have hfolder := isOneSegment_endpointFolder hsubscription hgroup
  refine List.forall_mem_append.2 ⟨List.forall_mem_append.2 ⟨hmanager, ?_⟩, ?_⟩
  · intro c hc
    obtain ⟨text, htext, hc⟩ := List.mem_flatMap.1 hc
    obtain rfl | hc := List.mem_cons.1 hc
    · rfl
    · exact (hfolder text htext).endsPath_eq_false c hc
  · exact List.forall_mem_singleton.2 rfl

/-- The path goes on as long as nothing in the name ends it. -/
theorem writtenPath_endpointUrl :
    writtenPath (client.endpointUrl group name) = client.manager.toList ++
      ((client.endpointFolder group).map String.toList ++ [writtenPath name]).flatMap
        fun part => '/' :: part := by
  have hbefore := endsPath_before_name hmanager hsubscription hgroup
  rw [writtenPath, toList_endpointUrl, cut_fst_append hbefore, cut_fst_append_cons rfl]
  simp [writtenPath, List.flatMap_map]

/-- **When an endpoint is where its address says.** The address that the client writes has the path
and the query that it should have just when the name can be written as one segment. -/
theorem locates_endpointUrl_iff :
    Locates client group name (client.endpointUrl group name) ↔ IsOneSegment name := by
  have hfolder := isOneSegment_endpointFolder hsubscription hgroup
  have hpath : '/' ∉ name.toList → (writtenPath (client.endpointUrl group name)).splitOn '/' =
      client.manager.toList.splitOn '/' ++
        ((client.endpointFolder group).map String.toList ++ [writtenPath name]) := by
    intro hname
    rw [writtenPath_endpointUrl hmanager hsubscription hgroup]
    refine splitOn_append_flatMap _ (List.forall_mem_append.2 ⟨?_, List.forall_mem_singleton.2 ?_⟩)
    · intro part hpart
      obtain ⟨text, htext, rfl⟩ := List.mem_map.1 hpart
      exact (hfolder text htext).slash_notMem
    · exact fun hmem => hname (List.takeWhile_subset _ hmem)
  constructor
  · intro h
    have hlast : name.toList ∈
        Identifier.segments (writtenPath (client.endpointUrl group name)) := by
      rw [Identifier.segments_eq_splitOn, h.path]
      simp
    have hslash : '/' ∉ name.toList := Identifier.slash_notMem_of_mem_segments hlast
    -- The last segment is what is left of the name, so nothing in the name ended the path.
    have hwhole : writtenPath name = name.toList := by
      have hparts := List.append_cancel_left ((hpath hslash).symm.trans h.path)
      simpa using hparts
    intro c hc
    have hgoes := writtenPath_eq_toList_iff.1 hwhole c hc
    simp only [endsPath, Bool.or_eq_false_iff, beq_eq_false_iff_ne] at hgoes
    exact ⟨fun heq => hslash (heq ▸ hc), hgoes⟩
  · intro hname
    have hbefore := endsPath_before_name hmanager hsubscription hgroup
    refine ⟨?_, ?_⟩
    · rw [hpath hname.slash_notMem, writtenPath_eq_toList_iff.2 hname.endsPath_eq_false,
        List.map_append]
      rfl
    · have hquery : ∀ c ∈ '?' :: "api-version=2019-06-01".toList, (c == '#') = false :=
        forall_mem_of_all (by decide)
      rw [writtenQuery, toList_endpointUrl, ← List.append_assoc,
        cut_append (List.forall_mem_append.2 ⟨hbefore, hname.endsPath_eq_false⟩) rfl]
      exact congrArg Prod.fst (cut_of_forall hquery)

/-- **Which endpoints share a path**: those of one group whose names agree up to the first question
mark or number sign. -/
theorem writtenPath_endpointUrl_eq_iff {group' name' : String} (hgroup' : IsOneSegment group') :
    writtenPath (client.endpointUrl group name) = writtenPath (client.endpointUrl group' name') ↔
      group = group' ∧ writtenPath name = writtenPath name' := by
  have hrest (group name : String) (hgroup : IsOneSegment group) :
      writtenPath (client.endpointUrl group name) =
        (client.manager.toList ++ "/subscriptions/".toList ++ client.subscription.toList ++
          "/resourceGroups/".toList) ++ (group.toList ++
            '/' :: ("providers/Microsoft.Network/privateEndpoints/".toList ++ writtenPath name)) := by
    rw [writtenPath_endpointUrl hmanager hsubscription hgroup]
    simp [Client.endpointFolder]
  rw [hrest group name hgroup, hrest group' name' hgroup', List.append_cancel_left_eq]
  constructor
  · intro heq
    -- The group ends at the first slash.
    have hsplit := congrArg (List.splitOn '/') heq
    rw [List.splitOn_append_cons_self_of_not_mem hgroup.slash_notMem,
      List.splitOn_append_cons_self_of_not_mem hgroup'.slash_notMem] at hsplit
    obtain rfl : group = group' := String.toList_inj.1 (List.cons.inj hsplit).1
    have hname := (List.cons.inj (List.append_cancel_left heq)).2
    exact ⟨rfl, List.append_cancel_left hname⟩
  · rintro ⟨rfl, hname⟩
    rw [hname]

end EndpointUrl

end PrivateLink.Manager
