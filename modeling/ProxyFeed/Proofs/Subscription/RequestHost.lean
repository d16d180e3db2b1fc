import ProxyFeed.Proofs.Fallback.Resolve
import ProxyFeed.Proofs.Http.Host
import ProxyFeed.Proofs.Link.FanOut
import ProxyFeed.Store.Memory
import ProxyFeed.Subscription.Basic

/-!
# Links back to the host of a request

A subscription points back to the host that it was asked for at, and to the ports of its inbounds.
The host is taken out of a header, where it may be in brackets and have a port; in a link it is put
in brackets again if it needs them.  Both look at colons and brackets alone, and they fit together.

## What is here

* `Uri.HasAuthority` — a link whose authority is a host with a port.
* `Subscription.PointsBack` — the inbounds whose links point back.
* `Subscription.fetch_points_back` — from the headers of a request to the authority of each link.
-/

set_option autoImplicit false
namespace ProxyFeed

/-- A link whose authority is a host with a port.  An IPv6 address is in brackets, a name is not. -/
structure Uri.HasAuthority (h : String) (port : Int64) (link : String) : Prop where
  name : Host.IsName h.toList → place? link.toList = some (h, toString port.toInt)
  address : Host.IsAddress6 h.toList →
    place? link.toList = some ("[" ++ h ++ "]", toString port.toInt)

namespace Uri

theorem host_of_isName {h : String} (is_name : Host.IsName h.toList) : host h = h := by
  have colon := is_name.apart ':' (by simp)
  simp [host, colon]

theorem host_of_isAddress6 {h : String} (address : Host.IsAddress6 h.toList) :
    host h = "[" ++ h ++ "]" := by
  have colon : ':' ∈ h.toList := by
    have several := address.colons
    exact List.count_pos_iff.1 (by omega)
  have bracket : h.toList.head? ≠ some '[' := fun there =>
    address.apart '[' (by simp) (List.mem_of_mem_head? there)
  simp [host, colon, bracket]

theorem hasAuthority_text (u : Uri) (letters : IsScheme u.scheme) :
    HasAuthority u.address u.port u.text where
  name is_name := by rw [place?_text letters, host_of_isName is_name]
  address address := by rw [place?_text letters, host_of_isAddress6 address]

end Uri

namespace Link

variable {ρ : Type} [SpiderSource ρ]

theorem exists_generate_of_mem_generateAll (ctx : LinkContext) (inbound : Inbound)
    (clients : List Client) {text : String} : ∀ (emails : List String) (source : ρ),
      text ∈ (generateAll ctx inbound clients emails source).1 →
        ∃ email, ∃ source : ρ, text = (generate ctx inbound email clients source).1
  | [], _, there => absurd there List.not_mem_nil
  | email :: emails, source, there => by
    rw [generateAll] at there
    rcases List.mem_cons.1 there with first | later
    · exact ⟨email, source, first⟩
    · exact exists_generate_of_mem_generateAll ctx inbound clients emails _ later

end Link

namespace Subscription

/-- The inbounds whose links are in URI form and point back to where the request came from: they can
be reached by themselves and have no external proxies. -/
structure PointsBack (i : Inbound) : Prop where
  listener : i.isFallbackListener = false
  uri : i.protocol ≠ "vmess"
  alone : ∀ stream, Json.parse? i.streamSettings = some stream →
    ExternalProxy.valid stream = []

variable {ρ : Type} [SpiderSource ρ] {i : Inbound}

theorem resolve_of_pointsBack (h : PointsBack i) (store : InboundStore) :
    Fallback.resolve store i = i := by
  rw [Fallback.resolve, Fallback.resolve?, h.listener]
  rfl

theorem hasAuthority_generate (h : PointsBack i) {ctx : LinkContext} (port : ctx.port = none)
    (email : String) (clients : List Client) (source : ρ)
    (link : (Link.generate ctx i email clients source).1 ≠ "") :
    Uri.HasAuthority ctx.address i.port (Link.generate ctx i email clients source).1 := by
  rw [Ne, Link.generate_eq_empty_iff, Link.not_unrendered_iff] at link
  obtain ⟨protocol, stream, client, made⟩ := link
  have alone := ExternalProxy.listOfStream_eq_nil_iff.2 (h.alone stream made.parsed)
  obtain ⟨scheme, uri⟩ : ∃ scheme, Link.uriScheme? protocol = some scheme := by
    refine Link.exists_uriScheme ?_
    rintro rfl
    exact h.uri (Protocol.ofTag?_eq_some_iff.1 made.spoken)
  have own : ctx.portFor i = i.port := by rw [LinkContext.portFor, port]
  rw [made.generate_alone ctx alone, Link.draftAt_eq_uri uri, ← own]
  exact Uri.hasAuthority_text ⟨scheme, _, _, _, _, _⟩ (Link.isScheme_uriScheme uri)

/-- The links of an inbound point back. -/
theorem hasAuthority_block (h : PointsBack i) (store : InboundStore) {ctx : LinkContext}
    (port : ctx.port = none) (subId : String) (source : ρ) :
    ∀ link ∈ (block store ctx subId i source).links,
      Uri.HasAuthority ctx.address i.port link := by
  rw [block, resolve_of_pointsBack h]
  cases i.clients? with
  | none => exact fun link none => absurd none List.not_mem_nil
  | some clients =>
    intro link there
    obtain ⟨rendered, some_link⟩ := List.mem_filter.1 there
    obtain ⟨email, source, rfl⟩ :=
      Link.exists_generate_of_mem_generateAll ctx i clients _ source rendered
    exact hasAuthority_generate h port email clients source (by simpa using some_link)

theorem forall₂_blocks {P : Inbound → Block → Prop} {store : InboundStore} {ctx : LinkContext}
    {subId : String} (h : ∀ i, ∀ source : ρ, P i (block store ctx subId i source))
    (sources : Nat → ρ) : ∀ (n : Nat) (inbounds : List Inbound),
      List.Forall₂ P inbounds (blocks store ctx subId sources n inbounds)
  | _, [] => .nil
  | n, i :: rest => .cons (h i (sources n)) (forall₂_blocks h sources (n + 1) rest)

/-- **The host of a request survives into the links, and its port does not.**  Headers that name a
host, in whatever form, are read as that host; and the links of every inbound that points back have
it as their authority, with the port of the inbound. -/
theorem fetch_points_back {h : String} {headers : Headers} (named : Host.Named h headers)
    (store : InboundStore) (options : SubscriptionOptions) (sources : Nat → ρ) (subId : String) :
    Host.ofHeaders headers = h ∧
      ∀ links header,
        fetch store options sources subId (Host.ofHeaders headers) = .ok (links, header) →
        ∃ inbounds, store.bySubId subId = .ok inbounds ∧
          links = (blocks store (context options h) subId sources 0 inbounds).flatMap (·.links) ∧
          List.Forall₂ (fun i b => PointsBack i → ∀ link ∈ b.links, Uri.HasAuthority h i.port link)
            inbounds (blocks store (context options h) subId sources 0 inbounds) := by
  refine ⟨Host.ofHeaders_of_named named, fun links header answered => ?_⟩
  rw [Host.ofHeaders_of_named named, fetch] at answered
  cases found : store.bySubId subId with
  | error fault =>
    rw [found] at answered
    cases answered
  | ok inbounds =>
    rw [found] at answered
    refine ⟨inbounds, rfl, ?_, ?_⟩
    · cases inbounds with
      | nil => cases answered
      | cons i rest => exact (Prod.mk.inj (Except.ok.inj answered)).1.symm
    · exact forall₂_blocks (fun i source back => hasAuthority_block back store rfl subId source)
        sources 0 inbounds

/-! ## A request through a relay -/

/-- The headers of a request that was relayed from an IPv6 address. -/
def relayedHeaders : Headers :=
  [("Host", "internal:2096"), ("X-Forwarded-Host", "  [2001:db8::1]:8443 , edge.example")]

theorem isAddress6_relayed : Host.IsAddress6 "2001:db8::1".toList :=
  ⟨by decide, by decide, by decide⟩

theorem named_relayedHeaders : Host.Named "2001:db8::1" relayedHeaders := by
  have digits : Host.IsDigits "8443".toList := by
    rw [Host.IsDigits]
    decide
  have shape : "  [2001:db8::1]:8443 , edge.example".toList = List.replicate 2 ' ' ++
      ('[' :: "2001:db8::1".toList ++ ']' :: ':' :: "8443".toList) ++ List.replicate 1 ' ' ++
        ", edge.example".toList := by
    decide
  exact .forwarded rfl (by decide) shape (.inr rfl)
    (.brackets_port isAddress6_relayed digits)

/-- An inbound with a client. -/
def homeInbound : Inbound where
  id := 1
  remark := "Edge"
  enable := true
  port := 443
  protocol := "trojan"
  settings := "\x7b\"clients\":[\x7b\"password\":\"own\",\"email\":\"kim\"," ++
    "\"enable\":true,\"subId\":\"home\"\x7d]\x7d"
  streamSettings := "\x7b\x7d"

/-- The answer to that request. -/
def homeAnswer : Except Failure (List String × String) :=
  fetch (MemoryInbounds.store [homeInbound]) ⟨"-ieo", false⟩ (fun _ => CyclicWords.ofList []) "home"
    (Host.ofHeaders relayedHeaders)

/-- The link points to that address, and to the port of the inbound. -/
theorem fetch_points_back_relayed : ∃ link header, homeAnswer = .ok ([link], header) ∧
    Uri.place? link.toList = some ("[2001:db8::1]", "443") := by
  have answered : homeAnswer =
      .ok (["trojan://own@[2001:db8::1]:443?security=none&type=tcp#Edge-kim"],
        "upload=0; download=0; total=0; expire=0") := by
    decide +kernel
  obtain ⟨-, back⟩ := fetch_points_back named_relayedHeaders (MemoryInbounds.store [homeInbound])
    ⟨"-ieo", false⟩ (fun _ => CyclicWords.ofList []) "home"
  obtain ⟨inbounds, found, links, all⟩ := back _ _ answered
  have alone : (MemoryInbounds.store [homeInbound]).bySubId "home" = .ok [homeInbound] := by
    decide +kernel
  obtain rfl := Except.ok.inj (alone.symm.trans found)
  have settings : ∀ stream, Json.parse? homeInbound.streamSettings = some stream →
      ExternalProxy.valid stream = [] := by
    rintro stream ⟨⟩
    rfl
  have points_back : PointsBack homeInbound := ⟨by decide, by decide, settings⟩
  obtain ⟨here, -⟩ := List.forall₂_cons.1 all
  rw [blocks, blocks, List.flatMap_singleton] at links
  refine ⟨_, _, answered, (here points_back _ ?_).address isAddress6_relayed⟩
  rw [← links]
  exact List.mem_singleton_self _

end Subscription
end ProxyFeed
