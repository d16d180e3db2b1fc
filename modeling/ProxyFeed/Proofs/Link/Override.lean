import ProxyFeed.Proofs.Json.Members
import ProxyFeed.Proofs.Link.Endpoint

/-!
# External proxies that impose nothing

An external proxy that keeps the layer of its inbound and has no name of its own is just another
place where the inbound can be reached.  Its link is then the one that the inbound would get by
itself if it were reached there.  The renderers make the two in separate branches, one that sets
place and layer anew and one that keeps what is written; the branches meet in `Link.vmess_eq_map`,
`Link.uri_eq_map` and `Link.shadowsocks_eq_map`.

## What is here

* `Json.agreeApart_erase` — removing a member leaves an object that agrees apart from it.
* `LinkContext.towards` — a request that came in at an external proxy.
* `Link.draftAt_towards` — where a request came in reaches a link through its endpoint only.
* `Link.override_eq_direct` — the link of an external proxy that imposes nothing.
-/

set_option autoImplicit false
namespace ProxyFeed

theorem Json.agreeApart_erase {ms : Members} (h : ms.keys.Nodup) (key : String) :
    (Json.obj (ms.erase key)).AgreeApart key (.obj ms) ∧
      (Json.obj (ms.erase key)).get? key = none := by
  refine ⟨fun k other => ?_, ?_⟩
  · rw [Json.get?, Json.get?, Members.get?_erase h, if_neg other]
  · rw [Json.get?, Members.get?_erase h, if_pos rfl]

theorem ExternalProxy.listOfStream_eq_nil {stream : Json}
    (absent : stream.get? "externalProxy" = none) : listOfStream stream = [] := by
  rw [listOfStream, absent]
  rfl

/-- The request as it would have come in at an external proxy. -/
def LinkContext.towards (ctx : LinkContext) (p : ExternalProxy) : LinkContext :=
  { ctx with address := p.dest, port := some p.port }

/-- An external proxy that imposes nothing is an endpoint like the inbound itself. -/
theorem Endpoint.direct_towards {p : ExternalProxy} (layer : p.forceTls = "" ∨ p.forceTls = "same")
    (unnamed : p.remark = "") (ctx : LinkContext) (inbound : Inbound) :
    direct (ctx.towards p) inbound = ofProxy p := by
  have unforced : p.forcedSecurity = none := if_pos layer
  rw [ofProxy, unforced, unnamed]
  rfl

namespace Link

/-- Where a request came in does not matter once the endpoint is known, and neither does the text
that stream settings were read from. -/
theorem draftAt_towards (ctx : LinkContext) (p : ExternalProxy) (inbound : Inbound) (text : String)
    (protocol : Protocol) (stream : Json) (client : Client) (spx : String) (e : Endpoint) :
    draftAt (ctx.towards p) { inbound with streamSettings := text } protocol stream client spx e =
      draftAt ctx inbound protocol stream client spx e := by
  cases protocol <;> rfl

/-! ## The link of an external proxy -/

section Lines

variable {plain stream : Json} {i : Nat} {p : ExternalProxy} (ctx : LinkContext)
  (inbound : Inbound) (protocol : Protocol)

/-- There is a link for the `i`-th external proxy exactly if the inbound by itself gets one. -/
theorem linkedEndpoints_override (text : String) (removed : plain.get? "externalProxy" = none)
    (ith : (ExternalProxy.listOfStream stream)[i]? = some p)
    (layer : p.forceTls = "" ∨ p.forceTls = "same") (unnamed : p.remark = "") :
    (linkedEndpoints ctx inbound protocol stream = [] ∧ linkedEndpoints (ctx.towards p)
        { inbound with streamSettings := text } protocol plain = []) ∨
      (linkedEndpoints ctx inbound protocol stream).length =
          (ExternalProxy.listOfStream stream).length ∧
        ∃ e, (linkedEndpoints ctx inbound protocol stream)[i]? = some e ∧
          linkedEndpoints (ctx.towards p) { inbound with streamSettings := text } protocol plain =
            [e] := by
  have all : Endpoint.all ctx inbound stream =
      (ExternalProxy.listOfStream stream).map Endpoint.ofProxy :=
    endpoints_of_proxies (List.ne_nil_of_mem (List.mem_of_getElem? ith)) ctx inbound
  have alone : Endpoint.all (ctx.towards p) { inbound with streamSettings := text } plain =
      [Endpoint.ofProxy p] := by
    rw [endpoints_of_alone (ExternalProxy.listOfStream_eq_nil removed)]
    exact congrArg (fun e => [e]) (Endpoint.direct_towards layer unnamed ctx _)
  rw [linkedEndpoints, linkedEndpoints]
  split
  · exact .inl ⟨rfl, rfl⟩
  · refine .inr ⟨by rw [all, List.length_map], .ofProxy p, ?_, alone⟩
    rw [all, List.getElem?_map, ith]
    rfl

/-- The links of a client with and without external proxies. -/
theorem lines_override (text : String) (same : plain.AgreeApart "externalProxy" stream)
    (removed : plain.get? "externalProxy" = none)
    (ith : (ExternalProxy.listOfStream stream)[i]? = some p)
    (layer : p.forceTls = "" ∨ p.forceTls = "same") (unnamed : p.remark = "") (client : Client)
    (spx : String) :
    let links := lines ctx inbound protocol stream client spx
    let alone := lines (ctx.towards p) { inbound with streamSettings := text } protocol plain
      client spx
    links = [] ∧ alone = [] ∨
      links.length = (ExternalProxy.listOfStream stream).length ∧
        ∃ link, links[i]? = some link ∧ alone = [link] := by
  intro links alone
  have links_eq : links = (linkedEndpoints ctx inbound protocol stream).map fun e =>
      (draftAt ctx inbound protocol stream client spx e).text :=
    lines_eq_map ctx inbound protocol stream client spx
  have alone_eq : alone = (linkedEndpoints (ctx.towards p)
      { inbound with streamSettings := text } protocol plain).map fun e =>
        (draftAt ctx inbound protocol stream client spx e).text := by
    refine (lines_eq_map _ _ protocol plain client spx).trans (List.map_congr_left fun e _ => ?_)
    rw [draftAt_congr (sameLayers_of_agreeApart same _), draftAt_towards]
  rw [links_eq, alone_eq]
  rcases linkedEndpoints_override ctx inbound protocol text removed ith layer unnamed with
    ⟨none_linked, not_linked⟩ | ⟨length, e, at_i, one⟩
  · exact .inl ⟨by rw [none_linked, List.map_nil], by rw [not_linked, List.map_nil]⟩
  · refine .inr ⟨by rw [List.length_map, length], _, ?_, by rw [one, List.map_singleton]⟩
    rw [List.getElem?_map, at_i, Option.map_some]

end Lines

/-- **The link of an external proxy that imposes nothing is the link of the inbound by itself.**  A
record without `forceTls` reads as one with the empty text there.  Whatever the other records say,
the link at its place is the one that would be rendered, from the same state of the source, without
the member `externalProxy` for a request that came in at the proxy; and the source is left in the
same state.  There is no link for one exactly if there is none for the other. -/
theorem override_eq_direct {ρ : Type} [SpiderSource ρ] (ctx : LinkContext) {inbound : Inbound}
    (email : String) (clients : List Client) (source : ρ) {text : String} {plain stream : Json}
    (parsed : Json.parse? inbound.streamSettings = some stream)
    (parsed_plain : Json.parse? text = some plain)
    (same : plain.AgreeApart "externalProxy" stream)
    (removed : plain.get? "externalProxy" = none) {i : Nat} {p : ExternalProxy}
    (ith : (ExternalProxy.listOfStream stream)[i]? = some p)
    (layer : p.forceTls = "" ∨ p.forceTls = "same") (unnamed : p.remark = "") :
    let links := rendered ctx inbound email clients source
    let direct := generate (ctx.towards p) { inbound with streamSettings := text } email clients
      source
    generate ctx inbound email clients source = ("\n".intercalate links.1, links.2) ∧
      direct.2 = links.2 ∧
      (links.1 = [] ∧ direct.1 = "" ∨
        links.1.length = (ExternalProxy.listOfStream stream).length ∧
          links.1[i]? = some direct.1) := by
  intro links direct
  refine ⟨generate_eq_rendered ctx inbound email clients source, ?_⟩
  have direct_eq : direct = _ := generate_eq_rendered _ _ email clients source
  by_cases missing : inbound.protocol? = none ∨ clients.find? (·.email = email) = none
  · have links_eq : links = ([], source) := rendered_of_missing ctx missing source
    have missing_alone : { inbound with streamSettings := text }.protocol? = none ∨
        clients.find? (·.email = email) = none := missing
    have alone : direct = ("", source) := by
      rw [direct_eq, rendered_of_missing _ missing_alone]
      rfl
    rw [links_eq, alone]
    exact ⟨rfl, .inl ⟨rfl, rfl⟩⟩
  · obtain ⟨spoken, found⟩ := not_or.1 missing
    obtain ⟨protocol, spoken⟩ := Option.ne_none_iff_exists'.1 spoken
    obtain ⟨client, found⟩ := Option.ne_none_iff_exists'.1 found
    have spoken_plain : { inbound with streamSettings := text }.protocol? = some protocol := spoken
    rw [rendered_of_found _ spoken_plain parsed_plain found,
      drawSpider_eq_of_agreeApart same] at direct_eq
    have links_eq : links = _ := rendered_of_found ctx spoken parsed found source
    rw [links_eq, direct_eq]
    refine ⟨rfl, ?_⟩
    rcases lines_override ctx inbound protocol text same removed ith layer unnamed client _ with
      ⟨no_links, not_alone⟩ | ⟨length, link, at_i, alone⟩
    · exact .inl ⟨no_links, by rw [not_alone]; rfl⟩
    · refine .inr ⟨length, ?_⟩
      rw [at_i, alone, String.intercalate_singleton]

/-- Three relays of an inbound.  The first has a layer and the last a name of its own; the one in
between imposes nothing. -/
def mixedRelays : Json :=
  .arr [.obj [("dest", .str "a.example"), ("port", .ofInt 80), ("forceTls", .str "none")],
    .obj [("dest", .str "b.example"), ("port", .ofInt 443), ("forceTls", .str "same")],
    .obj [("dest", .str "c.example"), ("port", .ofInt 443), ("remark", .str "far")]]

/-- Stream settings with those relays in front of the other members. -/
def mixedMembers : Members := ("externalProxy", mixedRelays) :: plainMembers

/-- The second link is the one that the inbound would get by itself. -/
theorem override_eq_direct_mixed :
    let links := (rendered relayedContext (vmessWith mixedMembers) "kim@home" [relayedClient]
      (CyclicWords.ofList [0])).1
    let direct := generate { relayedContext with address := "b.example", port := some 443 }
      (vmessWith (mixedMembers.erase "externalProxy")) "kim@home" [relayedClient]
      (CyclicWords.ofList [0])
    links.length = 3 ∧ links[1]? = some direct.1 := by
  intro links direct
  have parsed : Json.parse? (vmessWith mixedMembers).streamSettings = some (.obj mixedMembers) :=
    Json.parse?_pretty (by decide) (by decide) (by decide) (by decide)
  have parsed_plain : Json.parse? (vmessWith (mixedMembers.erase "externalProxy")).streamSettings =
      some (.obj (mixedMembers.erase "externalProxy")) :=
    Json.parse?_pretty (by decide) (by decide) (by decide) (by decide)
  have apart : mixedMembers.keys.Nodup := by decide
  obtain ⟨same, removed⟩ := Json.agreeApart_erase apart "externalProxy"
  have proxies : ExternalProxy.listOfStream (.obj mixedMembers) =
      [⟨"none", "a.example", 80, ""⟩, ⟨"same", "b.example", 443, ""⟩,
        ⟨"", "c.example", 443, "far"⟩] := by decide +kernel
  have ith : (ExternalProxy.listOfStream (.obj mixedMembers))[1]? =
      some ⟨"same", "b.example", 443, ""⟩ := by rw [proxies]; rfl
  obtain ⟨-, -, agreed⟩ := override_eq_direct relayedContext "kim@home" [relayedClient]
    (CyclicWords.ofList [0]) parsed parsed_plain same removed ith (.inr rfl) rfl
  have spoken : (vmessWith mixedMembers).protocol? = some .vmess := by decide
  have found : [relayedClient].find? (·.email = "kim@home") = some relayedClient := by decide
  rcases agreed with ⟨no_links, -⟩ | ⟨length, second⟩
  · rw [rendered_of_found relayedContext spoken parsed found, lines_eq_map] at no_links
    have endpoints : linkedEndpoints relayedContext (vmessWith mixedMembers) .vmess
        (.obj mixedMembers) ≠ [] := by
      rw [linkedEndpoints, if_neg (by simp), Endpoint.all, proxies]
      simp
    exact absurd (List.map_eq_nil_iff.1 no_links) endpoints
  · rw [proxies] at length
    exact ⟨length, second⟩

end Link
end ProxyFeed
