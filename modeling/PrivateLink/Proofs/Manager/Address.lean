import PrivateLink.Manager.Client
import PrivateLink.Proofs.Manager.Server
import PrivateLink.Proofs.Manager.Url

/-!
# What a request is about

A server reads the path of a request up to its question mark, cuts it at slashes and decodes what is
percent-encoded. The last segments then name the resource that the request is about, and this is the
resource for which the address was made, as long as each part of the address stands for itself.

* `resource?_of_resourceUrl`: the resource that a request to its address is about.
-/

namespace PrivateLink.Manager

open Url

/-- A resource of the network service, as a path names it. -/
structure Addressed where
  subscription : String
  group : String
  kind : String
  name : String
deriving DecidableEq, Repr

/-- The resource that the request is about, by the last segments of its path. -/
def Request.resource? (request : Request) : Option Addressed :=
  let path := request.target.toList.takeWhile (· ≠ '?')
  match ((Url.segments path).map Url.decode?).reverse with
  | some name :: some kind :: some "Microsoft.Network" :: some "providers" :: some group ::
      some "resourceGroups" :: some subscription :: some "subscriptions" :: _ =>
    some { subscription, group, kind, name }
  | _ => none

/-- What is requested at the address of something that is below a server. -/
theorem target_of_requestTarget? {manager text query : String} {texts : List String}
    {target : String} (hmanager : IsServerAddress manager) (hne : texts ≠ [])
    (htexts : ∀ text ∈ texts, IsPlain text)
    (htext : text = manager ++ String.join (texts.map ("/" ++ ·)) ++ "?" ++ query)
    (hquery : ∃ last front, query.toList = front ++ [last] ∧ 0x20 < last.toNat)
    (hkept : ∀ c ∈ query.toList, c ∉ '#' :: inert)
    (h : requestTarget? text = some target) :
    ∃ before query, target.toList = ((before ++ texts.map String.toList).flatMap fun segment =>
        '/' :: encode isReservedInPath segment) ++ '?' :: query := by
  obtain ⟨scheme, authority, base, rfl, hscheme, hauthority, hparted, hbase, hended⟩ := hmanager
  obtain ⟨path, hpath⟩ : ∃ path,
      base.toList ++ (texts.flatMap fun text => '/' :: text.toList) = '/' :: path := by
    obtain ⟨first, others, rfl⟩ := List.exists_cons_of_ne_nil hne
    obtain hempty | ⟨rest, hrest⟩ := hbase
    · exact ⟨_, by rw [hempty]; rfl⟩
    · exact ⟨_, by rw [hrest]; rfl⟩
  have hlist : text.toList = scheme.toList ++ "://".toList ++ authority.toList ++ '/' :: path ++
      '?' :: query.toList := by
    rw [htext, ← hpath]
    simp [List.flatMap_map]
  have hscheme' : scheme.toList = "http".toList ∨ scheme.toList = "https".toList :=
    hscheme.imp (congrArg _) (congrArg _)
  have hpassed : ∀ c ∈ '/' :: path, c ∉ ending := by
    rw [← hpath]
    intro c hc
    obtain hc | hc := List.mem_append.1 hc
    · exact hended c hc
    · obtain ⟨text, htext, hc⟩ := List.mem_flatMap.1 hc
      obtain rfl | hc := List.mem_cons.1 hc
      · decide
      · exact (htexts text htext).notMem_ending c hc
  have hclean : cleaned text = text.toList :=
    cleaned_of_parts hlist hscheme' hparted hpassed hquery hkept
  obtain ⟨found, hfound, rfl⟩ := Option.map_eq_some_iff.1 h
  have htarget : found.target = _ := target_of_parse? (hclean.trans hlist) hscheme'
    (by simpa using hauthority) hparted hpassed
    (fun hmem => hkept _ hmem List.mem_cons_self) hfound
  obtain ⟨before, hbefore⟩ := requestPath_append hbase hne htexts
  refine ⟨before, encode isReservedInQuery query.toList, ?_⟩
  rw [htarget, String.toList_ofList, ← hpath, hbefore]
  rfl

/-- **What a request is about.** A request to the address that the client makes for a resource is
about that resource in the subscription of the client. -/
theorem resource?_of_resourceUrl {client : Client} {group kind name : String} {request : Request}
    (hmanager : IsServerAddress client.manager) (hsubscription : IsPlain client.subscription)
    (hgroup : IsPlain group) (hkind : IsPlain kind) (hname : IsPlain name)
    (h : requestTarget? (client.resourceUrl group kind name) = some request.target) :
    request.resource? = some { subscription := client.subscription, group, kind, name } := by
  let texts := ["subscriptions", client.subscription, "resourceGroups", group, "providers",
    "Microsoft.Network", kind, name]
  have htexts : ∀ text ∈ texts, IsPlain text := by
    simp only [texts, List.forall_mem_cons]
    exact ⟨by decide, hsubscription, by decide, hgroup, by decide, by decide, hkind, hname, nofun⟩
  have hurl : client.resourceUrl group kind name =
      client.manager ++ String.join (texts.map ("/" ++ ·)) ++ "?" ++ "api-version=2019-06-01" := by
    apply String.toList_inj.1
    simp [texts, Client.resourceUrl, apiVersion, String.join]
  obtain ⟨before, query, htarget⟩ := target_of_requestTarget? hmanager (List.cons_ne_nil _ _)
    htexts hurl ⟨'1', "api-version=2019-06-0".toList, by decide, by decide⟩
    (forall_mem_of_all (by decide)) h
  obtain ⟨others, hothers⟩ :
      ∃ others, (segments (request.target.toList.takeWhile (· ≠ '?'))).map decode? =
        others ++ texts.map some := by
    rw [htarget]
    exact decode?_segments htexts
  rw [Request.resource?, hothers, List.reverse_append]
  rfl

end PrivateLink.Manager
