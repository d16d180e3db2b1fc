import ProxyFeed.Proofs.Link.Draft
import ProxyFeed.Store.Memory
import ProxyFeed.Subscription.Basic
import Mathlib.Data.List.Basic

/-!
# Whose record a subscription shows

A subscription picks the clients of an inbound by their own record, but renders each of them by
e-mail: what is rendered is the first client of that e-mail, whoever it belongs to.  So a
subscription consists of the links of its members' own records exactly if, for every member, the
first client of its e-mail shows the same fields.

## What is here

* `Link.ofRecord` — the links of a record, no e-mail involved; `Link.generate_eq` ties it to
  rendering by e-mail.
* `Link.shown?` — what the links of an inbound show of a record.
* `Subscription.ownLinks` — the links of the members' own records.
* `Subscription.fetch_links_eq_ownLinks_iff` — when an answer consists of them.
-/

set_option autoImplicit false
namespace ProxyFeed

variable {ρ : Type} [SpiderSource ρ]

/-! ## Links of a record -/

namespace Link

/-- The links of a record, joined by line breaks; the empty text if there is nothing to render. -/
def ofRecord (ctx : LinkContext) (inbound : Inbound) (client : Client) (source : ρ) : String × ρ :=
  match inbound.protocol?, Json.parse? inbound.streamSettings with
  | some protocol, some stream =>
    let (spx, source) := drawSpider stream (scope protocol) source
    ("\n".intercalate (lines ctx inbound protocol stream client spx), source)
  | _, _ => ("", source)

/-- The texts of several records in turn, from one source. -/
def ofRecords (ctx : LinkContext) (inbound : Inbound) : List Client → ρ → List String
  | [], _ => []
  | client :: clients, source =>
    let (text, source) := ofRecord ctx inbound client source
    text :: ofRecords ctx inbound clients source

/-- What the links of an inbound show of a record besides the e-mail, if links can be rendered. -/
def shown? (inbound : Inbound) (client : Client) : Option (List String) := do
  return shown inbound (← inbound.protocol?) (← Json.parse? inbound.streamSettings) client

/-- **Rendering by e-mail renders the first record of that e-mail.** -/
theorem generate_eq (ctx : LinkContext) (inbound : Inbound) (email : String)
    (clients : List Client) (source : ρ) :
    generate ctx inbound email clients source =
      match clients.find? (·.email = email) with
      | some client => ofRecord ctx inbound client source
      | none => ("", source) := by
  rw [generate]
  cases clients.find? (·.email = email) <;> cases hp : inbound.protocol? <;>
    cases hs : Json.parse? inbound.streamSettings <;> simp [ofRecord, hp, hs]

/-- What a record takes from the source does not depend on the record. -/
theorem ofRecord_source_eq (ctx : LinkContext) (inbound : Inbound) (c d : Client) (source : ρ) :
    (ofRecord ctx inbound c source).2 = (ofRecord ctx inbound d source).2 := by
  rw [ofRecord, ofRecord]
  split <;> rfl

/-- Records of one e-mail are rendered alike exactly if the fields that links show agree. -/
theorem ofRecord_eq_iff (ctx : LinkContext) (inbound : Inbound) {c d : Client}
    (email : c.email = d.email) (source : ρ) :
    (ofRecord ctx inbound c source).1 = (ofRecord ctx inbound d source).1 ↔
      shown? inbound c = shown? inbound d := by
  rw [ofRecord, ofRecord, shown?, shown?]
  cases inbound.protocol? with
  | none => simp
  | some protocol =>
    cases Json.parse? inbound.streamSettings with
    | none => simp
    | some stream => simpa using joined_eq_iff_shown_eq email _

/-- The number of links does not depend on the record, nor on the request. -/
theorem lines_length_eq (ctx ctx' : LinkContext) (inbound : Inbound) (protocol : Protocol)
    (stream : Json) (c d : Client) (spx spx' : String) :
    (lines ctx inbound protocol stream c spx).length =
      (lines ctx' inbound protocol stream d spx').length := by
  have endpoints : (Endpoint.all ctx inbound stream).length =
      (Endpoint.all ctx' inbound stream).length := by
    rw [length_endpoints, length_endpoints]
  cases protocol with
  | vmess => simpa [lines, vmess_eq_map] using endpoints
  | vless | trojan => simpa [lines, uri_eq_map] using endpoints
  | shadowsocks =>
    rw [lines, lines, shadowsocks_eq_map, shadowsocks_eq_map]
    simp only [shadowsocksCredential?_eq]
    cases shadowsocksServer? inbound.settings with
    | none => rfl
    | some server => simpa using endpoints

/-- Whether there is anything to render does not depend on the record. -/
theorem ofRecord_eq_empty_iff (ctx : LinkContext) (inbound : Inbound) (c d : Client) (source : ρ) :
    (ofRecord ctx inbound c source).1 = "" ↔ (ofRecord ctx inbound d source).1 = "" := by
  rw [ofRecord, ofRecord]
  split
  · next protocol stream _ _ =>
    dsimp only
    rw [joined_eq_empty_iff lines_ne_empty, joined_eq_empty_iff lines_ne_empty,
      ← List.length_eq_zero_iff, ← List.length_eq_zero_iff,
      lines_length_eq ctx ctx inbound protocol stream c d]
  · rfl

end Link

namespace Subscription

/-! ## Links of a subscription -/

/-- The record that stands for a client when it is looked up by e-mail. -/
def firstNamed (clients : List Client) (c : Client) : Client :=
  (clients.find? (·.email = c.email)).getD c

theorem find?_eq_firstNamed {clients : List Client} {c : Client} (h : c ∈ clients) :
    clients.find? (·.email = c.email) = some (firstNamed clients c) := by
  rw [firstNamed]
  cases found : clients.find? (·.email = c.email) with
  | some d => rfl
  | none => simpa using List.find?_eq_none.1 found c h

theorem firstNamed_email {clients : List Client} {c : Client} (h : c ∈ clients) :
    (firstNamed clients c).email = c.email := by
  simpa using List.find?_some (find?_eq_firstNamed h)

/-- The links of the own records of the members of an inbound. -/
def ownBlock (store : InboundStore) (ctx : LinkContext) (subId : String) (inbound : Inbound)
    (source : ρ) : List String :=
  match inbound.clients? with
  | none => []
  | some clients =>
    (Link.ofRecords ctx (Fallback.resolve store inbound) (members subId clients) source).filter
      (· ≠ "")

/-- The links of the own records of the members of a list of inbounds, the `n`-th with the `n`-th
source: inbound by inbound, and client by client. -/
def ownLinks (store : InboundStore) (ctx : LinkContext) (subId : String) (sources : Nat → ρ) :
    Nat → List Inbound → List String
  | _, [] => []
  | n, i :: rest =>
    ownBlock store ctx subId i (sources n) ++ ownLinks store ctx subId sources (n + 1) rest

/-- Does every member of an inbound show the fields of its own record? -/
def ShowsOwn (store : InboundStore) (subId : String) (i : Inbound) : Prop :=
  ∀ clients, i.clients? = some clients → ∀ c ∈ members subId clients,
    Link.shown? (Fallback.resolve store i) (firstNamed clients c) =
      Link.shown? (Fallback.resolve store i) c

/-- Rendering members by e-mail renders the records that stand for them. -/
theorem generateAll_eq (ctx : LinkContext) (inbound : Inbound) (clients : List Client) :
    ∀ (chosen : List Client), (∀ c ∈ chosen, c ∈ clients) → ∀ source : ρ,
      (Link.generateAll ctx inbound clients (chosen.map (·.email)) source).1 =
        Link.ofRecords ctx inbound (chosen.map (firstNamed clients)) source
  | [], _, _ => rfl
  | c :: chosen, h, source => by
    have ih := generateAll_eq ctx inbound clients chosen fun d hd => h d (by simp [hd])
    simp only [List.map_cons, Link.generateAll, Link.ofRecords, Link.generate_eq,
      find?_eq_firstNamed (h c (by simp)), ih]

/-- The texts of two lists of records, compared one by one. -/
theorem ofRecords_map_eq_iff (ctx : LinkContext) (inbound : Inbound) (f : Client → Client) :
    ∀ (chosen : List Client), (∀ c ∈ chosen, (f c).email = c.email) → ∀ source : ρ,
      ((Link.ofRecords ctx inbound (chosen.map f) source).filter (· ≠ "")).length =
          ((Link.ofRecords ctx inbound chosen source).filter (· ≠ "")).length ∧
        ((Link.ofRecords ctx inbound (chosen.map f) source).filter (· ≠ "") =
            (Link.ofRecords ctx inbound chosen source).filter (· ≠ "") ↔
          ∀ c ∈ chosen, Link.shown? inbound (f c) = Link.shown? inbound c)
  | [], _, _ => by simp [Link.ofRecords]
  | c :: chosen, h, source => by
    have same := Link.ofRecord_eq_iff ctx inbound (h c (by simp)) source
    have empty := Link.ofRecord_eq_empty_iff ctx inbound (f c) c source
    obtain ⟨lengths, texts⟩ := ofRecords_map_eq_iff ctx inbound f chosen
      (fun d hd => h d (by simp [hd])) (Link.ofRecord ctx inbound c source).2
    simp only [List.map_cons, Link.ofRecords, Link.ofRecord_source_eq ctx inbound (f c) c source,
      List.filter_cons, decide_eq_true_eq, List.forall_mem_cons]
    by_cases hc : (Link.ofRecord ctx inbound c source).1 = ""
    · have hf := empty.2 hc
      have shown := same.1 (hf.trans hc.symm)
      rw [if_neg (not_not.2 hf), if_neg (not_not.2 hc)]
      exact ⟨lengths, texts.trans ⟨fun later => ⟨shown, later⟩, And.right⟩⟩
    · rw [if_pos fun hf => hc (empty.1 hf), if_pos hc, List.length_cons, List.length_cons, lengths,
        List.cons.injEq, same, texts]
      exact ⟨rfl, Iff.rfl⟩

theorem block_links_eq_ownBlock_iff (store : InboundStore) (ctx : LinkContext) (subId : String)
    (i : Inbound) (source : ρ) :
    (block store ctx subId i source).links.length = (ownBlock store ctx subId i source).length ∧
      ((block store ctx subId i source).links = ownBlock store ctx subId i source ↔
        ShowsOwn store subId i) := by
  rw [block, ownBlock, ShowsOwn]
  cases i.clients? with
  | none => simp
  | some clients =>
    have chosen : ∀ c ∈ members subId clients, c ∈ clients := fun c hc => (List.mem_filter.1 hc).1
    have texts := ofRecords_map_eq_iff ctx (Fallback.resolve store i) (firstNamed clients)
      (members subId clients) (fun c hc => firstNamed_email (chosen c hc)) source
    simpa [generateAll_eq ctx _ clients _ chosen] using texts

theorem blocks_links_eq_ownLinks_iff (store : InboundStore) (ctx : LinkContext) (subId : String)
    (sources : Nat → ρ) : ∀ (n : Nat) (inbounds : List Inbound),
      (blocks store ctx subId sources n inbounds).flatMap (·.links) =
          ownLinks store ctx subId sources n inbounds ↔
        ∀ i ∈ inbounds, ShowsOwn store subId i
  | _, [] => by simp [blocks, ownLinks]
  | n, i :: rest => by
    obtain ⟨lengths, first⟩ := block_links_eq_ownBlock_iff store ctx subId i (sources n)
    have ih := blocks_links_eq_ownLinks_iff store ctx subId sources (n + 1) rest
    rw [blocks, ownLinks, List.flatMap_cons, List.forall_mem_cons, ← first, ← ih]
    refine ⟨fun h => List.append_inj h lengths, ?_⟩
    rintro ⟨hi, hrest⟩
    rw [hi, hrest]

/-- **An answer consists of the links of the members' own records exactly if every member shows the
fields of its own record**, that is if the first client of its e-mail shows the same ones. -/
theorem fetch_links_eq_ownLinks_iff {store : InboundStore} {options : SubscriptionOptions}
    {sources : Nat → ρ} {subId host : String} {inbounds : List Inbound} {links : List String}
    {header : String} (found : store.bySubId subId = .ok inbounds)
    (answered : fetch store options sources subId host = .ok (links, header)) :
    links = ownLinks store (context options host) subId sources 0 inbounds ↔
      ∀ i ∈ inbounds, ShowsOwn store subId i := by
  rw [fetch, found] at answered
  cases inbounds with
  | nil => cases answered
  | cons i rest =>
    obtain ⟨rfl, -⟩ := Prod.mk.inj (Except.ok.inj answered)
    exact blocks_links_eq_ownLinks_iff store _ subId sources 0 (i :: rest)

/-- An inbound where an e-mail was given to a new client and the old one is left disabled. -/
def reassigned : Inbound where
  id := 1
  remark := "Edge"
  enable := true
  port := 443
  protocol := "vless"
  settings := "\x7b\"clients\":[\x7b\"id\":\"retired\",\"email\":\"kim\"\x7d," ++
    "\x7b\"id\":\"current\",\"email\":\"kim\",\"enable\":true,\"subId\":\"home\"\x7d]\x7d"
  streamSettings := "\x7b\x7d"

/-- The answer to `home` on that inbound in memory. -/
def fetchReassigned : Except Failure (List String × String) :=
  fetch (MemoryInbounds.store [reassigned]) ⟨"-ieo", false⟩ (fun _ => CyclicWords.ofList []) "home"
    "h.example"

/-- The links that answer should consist of. -/
def ownReassigned : List String :=
  ownLinks (MemoryInbounds.store [reassigned]) (context ⟨"-ieo", false⟩ "h.example") "home"
    (fun _ => CyclicWords.ofList []) 0 [reassigned]

theorem fetchReassigned_eq : fetchReassigned =
    .ok (["vless://retired@h.example:443?security=none&type=tcp#Edge-kim"],
      "upload=0; download=0; total=0; expire=0") := by
  decide +kernel

theorem ownReassigned_eq :
    ownReassigned = ["vless://current@h.example:443?security=none&type=tcp#Edge-kim"] := by
  decide +kernel

/-- The subscription of the new client hands out the credential of the disabled one, which does not
belong to it. -/
theorem fetch_renders_disabled_record :
    fetchReassigned = .ok (["vless://retired@h.example:443?security=none&type=tcp#Edge-kim"],
        "upload=0; download=0; total=0; expire=0") ∧
      ownReassigned = ["vless://current@h.example:443?security=none&type=tcp#Edge-kim"] :=
  ⟨fetchReassigned_eq, ownReassigned_eq⟩

/-- The new client does not show its own record. -/
theorem not_showsOwn_reassigned :
    ¬ ∀ i ∈ [reassigned], ShowsOwn (MemoryInbounds.store [reassigned]) "home" i := by
  have found : (MemoryInbounds.store [reassigned]).bySubId "home" = .ok [reassigned] := by
    decide +kernel
  intro shows
  have own := (fetch_links_eq_ownLinks_iff found fetchReassigned_eq).2 shows
  rw [← ownReassigned, ownReassigned_eq] at own
  simp at own

end Subscription
end ProxyFeed
