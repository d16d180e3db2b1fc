import ProxyFeed.Proofs.Link.ExternalProxy
import ProxyFeed.Proofs.Link.Place

/-!
# One link for each place

A rendering is one text: the empty one if there is nothing to render, and otherwise its links with
line breaks between them.  Whoever asks for it tells the two apart by comparing with the empty text,
and clients cut it at the line breaks.  Both work as no link can vanish or break a line.

## What is here

* `Link.Unrendered` — the reasons not to render anything; `Link.generate_eq_empty_iff` says that
  there are no others.
* `Link.Rendering` — what a rendering is made from, if there is no such reason.
* `Link.FansOut` — the lines of a rendering: one for each valid record of an external proxy, or one
  for the inbound if there is none.
* `Link.fan_out` — renderings are empty or fan out, and other records do not matter.
-/

set_option autoImplicit false
namespace ProxyFeed

/-! ## Protocols by their tags -/

theorem Protocol.ofTag?_eq_some_iff {tag : String} {p : Protocol} :
    ofTag? tag = some p ↔ tag = p.tag := by
  constructor
  · intro found
    simpa [eq_comm] using List.find?_some found
  · rintro rfl
    cases p <;> decide

theorem Protocol.ofTag?_eq_none_iff {tag : String} :
    ofTag? tag = none ↔ tag ∉ ["vmess", "vless", "trojan", "shadowsocks"] := by
  show all.find? _ = none ↔ tag ∉ all.map Protocol.tag
  rw [List.find?_eq_none]
  simp [eq_comm]

namespace Link

/-! ## Nothing to render -/

/-- The reasons not to render anything. -/
inductive Unrendered (inbound : Inbound) (email : String) (clients : List Client) : Prop where
  | protocol (other : inbound.protocol ∉ ["vmess", "vless", "trojan", "shadowsocks"])
  | stream (unreadable : Json.parse? inbound.streamSettings = none)
  | client (unknown : ∀ c ∈ clients, c.email ≠ email)
  /-- Shadowsocks settings that lack what a credential is made of. -/
  | server (shadowsocks : inbound.protocol = "shadowsocks")
      (incomplete : ¬ ∃ settings method password, Json.parse? inbound.settings = some settings ∧
        settings.get? "method" = some (.str method) ∧
        settings.get? "password" = some (.str password))

theorem isSome_shadowsocksServer?_iff {text : String} : (shadowsocksServer? text).isSome ↔
    ∃ settings method password, Json.parse? text = some settings ∧
      settings.get? "method" = some (.str method) ∧
      settings.get? "password" = some (.str password) := by
  simp only [shadowsocksServer?, Option.isSome_iff_exists, Option.bind_eq_bind,
    Option.bind_eq_some_iff, Json.text?_eq_some_iff, Option.pure_def, Option.some.injEq]
  constructor
  · rintro ⟨_, settings, parsed, method, at_method, password, at_password, rfl⟩
    exact ⟨settings, method, password, parsed, at_method, at_password⟩
  · rintro ⟨settings, method, password, parsed, at_method, at_password⟩
    exact ⟨_, settings, parsed, method, at_method, password, at_password, rfl⟩

/-- What a rendering is made from. -/
structure Rendering (inbound : Inbound) (email : String) (clients : List Client)
    (protocol : Protocol) (stream : Json) (client : Client) : Prop where
  spoken : inbound.protocol? = some protocol
  parsed : Json.parse? inbound.streamSettings = some stream
  found : clients.find? (·.email = email) = some client
  server : protocol = .shadowsocks → (shadowsocksServer? inbound.settings).isSome

variable {inbound : Inbound} {email : String} {clients : List Client}

/-- Without a reason not to, there is all that a rendering is made from. -/
theorem not_unrendered_iff : ¬ Unrendered inbound email clients ↔
    ∃ protocol stream client, Rendering inbound email clients protocol stream client := by
  constructor
  · intro rendered
    cases spoken : inbound.protocol? with
    | none => exact absurd (.protocol (Protocol.ofTag?_eq_none_iff.1 spoken)) rendered
    | some protocol =>
      cases parsed : Json.parse? inbound.streamSettings with
      | none => exact absurd (.stream parsed) rendered
      | some stream =>
        cases found : clients.find? (·.email = email) with
        | none =>
          have unknown : ∀ c ∈ clients, c.email ≠ email := by simpa using found
          exact absurd (.client unknown) rendered
        | some client =>
          refine ⟨protocol, stream, client, spoken, parsed, found, ?_⟩
          rintro rfl
          rw [isSome_shadowsocksServer?_iff]
          by_contra incomplete
          exact rendered (.server (Protocol.ofTag?_eq_some_iff.1 spoken) incomplete)
  · rintro ⟨protocol, stream, client, h⟩ unrendered
    have tag := Protocol.ofTag?_eq_some_iff.1 h.spoken
    cases unrendered with
    | protocol other =>
      rw [← Protocol.ofTag?_eq_none_iff] at other
      cases other.symm.trans h.spoken
    | stream unreadable => cases unreadable.symm.trans h.parsed
    | client unknown =>
      have email_eq : client.email = email := by simpa using List.find?_some h.found
      exact unknown client (List.mem_of_find?_eq_some h.found) email_eq
    | server shadowsocks incomplete =>
      have same : inbound.protocol? = some .shadowsocks :=
        Protocol.ofTag?_eq_some_iff.2 shadowsocks
      obtain rfl : Protocol.shadowsocks = protocol := Option.some.inj (same.symm.trans h.spoken)
      exact incomplete (isSome_shadowsocksServer?_iff.1 (h.server rfl))

/-! ## The lines of a rendering -/

section Generate

variable {ρ : Type} [SpiderSource ρ] (ctx : LinkContext) {protocol : Protocol} {stream : Json}
  {client : Client}

/-- Every endpoint gets a link. -/
theorem Rendering.rendered_eq (h : Rendering inbound email clients protocol stream client)
    (source : ρ) : (Link.rendered ctx inbound email clients source).1 =
      (Endpoint.all ctx inbound stream).map fun e => (draftAt ctx inbound protocol stream client
        (drawSpider stream (scope protocol) source).1 e).text := by
  rw [rendered_of_found ctx h.spoken h.parsed h.found, lines_eq_map,
    linkedEndpoints_of_server _ _ _ _ h.server]

/-- Without external proxies, a rendering is the link for the inbound itself. -/
theorem Rendering.generate_alone (h : Rendering inbound email clients protocol stream client)
    (alone : ExternalProxy.listOfStream stream = []) (source : ρ) :
    (generate ctx inbound email clients source).1 = (draftAt ctx inbound protocol stream client
      (drawSpider stream (scope protocol) source).1 (Endpoint.direct ctx inbound)).text := by
  rw [generate_eq_rendered, h.rendered_eq, endpoints_of_alone alone, List.map_singleton,
    String.intercalate_singleton]

theorem rendered_of_unrendered (h : Unrendered inbound email clients) (source : ρ) :
    (rendered ctx inbound email clients source).1 = [] := by
  rw [rendered]
  split
  · next protocol stream client spoken parsed found =>
    have incomplete : ¬ Rendering inbound email clients protocol stream client :=
      fun made => not_unrendered_iff.2 ⟨_, _, _, made⟩ h
    have shadowsocks : protocol = .shadowsocks ∧ shadowsocksServer? inbound.settings = none := by
      by_contra complete
      refine incomplete ⟨spoken, parsed, found, fun shadowsocks => ?_⟩
      rw [← Option.not_isSome_iff_eq_none] at complete
      exact not_not.1 (not_and.1 complete shadowsocks)
    show lines .. = []
    rw [lines_eq_map, linkedEndpoints, if_pos shadowsocks, List.map_nil]
  · rfl

/-- **The empty text stands for a rendering without links**, and for nothing else. -/
theorem generate_eq_empty_iff (email : String) (clients : List Client) (source : ρ) :
    (generate ctx inbound email clients source).1 = "" ↔ Unrendered inbound email clients := by
  rw [generate_eq_rendered]
  constructor
  · intro empty
    by_contra made
    obtain ⟨protocol, stream, client, made⟩ := not_unrendered_iff.1 made
    have links := made.rendered_eq ctx source
    rw [links, joined_eq_empty_iff (List.forall_mem_map.2 fun _ _ => Draft.text_ne_empty _),
      List.map_eq_nil_iff, ← List.length_eq_zero_iff, length_endpoints] at empty
    omega
  · intro unrendered
    rw [rendered_of_unrendered ctx unrendered, String.intercalate_nil]

/-- The lines of a rendering: one for each valid record of an external proxy, in their order, or one
for the inbound itself. -/
structure FansOut (ctx : LinkContext) (inbound : Inbound) (protocol : Protocol) (stream : Json)
    (links : List (List Char)) : Prop where
  length : links.length = max 1 (ExternalProxy.valid stream).length
  opening : ∀ link ∈ links, (Link.opening protocol).toList <+: link
  places : ∃ proxies, List.Forall₂ ExternalProxy.Reads (ExternalProxy.valid stream) proxies ∧
    (proxies ≠ [] → List.Forall₂ (fun link p => PointsTo protocol link p.dest p.port.toNat)
      links proxies)
  itself : ExternalProxy.valid stream = [] →
    ∀ link ∈ links, PointsTo protocol link ctx.address (ctx.portFor inbound).toInt

/-- **A rendering has one link for each place.** -/
theorem Rendering.fansOut (h : Rendering inbound email clients protocol stream client)
    (address : '\n' ∉ ctx.address.toList)
    (dests : ∀ record ∈ ExternalProxy.valid stream, ∀ p, ExternalProxy.Reads record p →
      '\n' ∉ p.dest.toList) (source : ρ) :
    FansOut ctx inbound protocol stream
      (Form.splitAt '\n' (generate ctx inbound email clients source).1.toList) := by
  have reads := ExternalProxy.reads_valid_iff.2 (Eq.refl (ExternalProxy.listOfStream stream))
  have unbroken : ∀ e ∈ Endpoint.all ctx inbound stream, '\n' ∉ e.address.toList := by
    by_cases alone : ExternalProxy.listOfStream stream = []
    · rw [endpoints_of_alone alone, List.forall_mem_singleton]
      exact address
    · rw [endpoints_of_proxies alone, List.forall_mem_map]
      intro p listed
      obtain ⟨record, valid, read⟩ := ExternalProxy.mem_listOfStream_iff.1 listed
      exact dests record valid p read
  have links : Form.splitAt '\n' (generate ctx inbound email clients source).1.toList =
      (Endpoint.all ctx inbound stream).map fun e => (draftAt ctx inbound protocol stream client
        (drawSpider stream (scope protocol) source).1 e).text.toList := by
    rw [generate_eq_rendered, h.rendered_eq]
    exact splitAt_joined fun e he => unbroken_draftAt _ _ _ _ _ _ _ (unbroken e he)
  rw [links]
  constructor
  · rw [List.length_map, length_endpoints, reads.length_eq]
  · exact List.forall_mem_map.2 fun e _ => opening_draftAt ..
  · refine ⟨_, reads, fun some_proxy => ?_⟩
    rw [endpoints_of_proxies some_proxy, List.map_map, List.forall₂_map_left_iff, List.forall₂_same]
    intro p _
    have there := pointsTo_draftAt ctx inbound protocol stream client
      (drawSpider stream (scope protocol) source).1 (.ofProxy p)
    rwa [toInt_port_ofProxy] at there
  · intro none_valid
    rw [endpoints_of_alone (ExternalProxy.listOfStream_eq_nil_iff.2 none_valid),
      List.forall_mem_map, List.forall_mem_singleton]
    exact pointsTo_draftAt ..

end Generate

/-- **A rendering is empty, for one of four reasons, or it has one link for each place**, as long as
no address has a line break.  Records that are not ones of an external proxy make no difference:
other stream settings with the same valid records, and otherwise the same members, have the same
links. -/
theorem fan_out {ρ : Type} [SpiderSource ρ] {ctx : LinkContext} {inbound : Inbound}
    (address : '\n' ∉ ctx.address.toList)
    (dests : ∀ stream, Json.parse? inbound.streamSettings = some stream →
      ∀ record ∈ ExternalProxy.valid stream, ∀ p, ExternalProxy.Reads record p →
        '\n' ∉ p.dest.toList) (email : String) (clients : List Client) (source : ρ) :
    ((generate ctx inbound email clients source).1 = "" ↔ Unrendered inbound email clients) ∧
      (¬ Unrendered inbound email clients → ∃ protocol stream,
        inbound.protocol = protocol.tag ∧ Json.parse? inbound.streamSettings = some stream ∧
          FansOut ctx inbound protocol stream
            (Form.splitAt '\n' (generate ctx inbound email clients source).1.toList)) ∧
      ∀ (text : String) (stream other : Json),
        Json.parse? inbound.streamSettings = some stream → Json.parse? text = some other →
        other.AgreeApart "externalProxy" stream →
        ExternalProxy.valid other = ExternalProxy.valid stream →
        generate ctx { inbound with streamSettings := text } email clients source =
          generate ctx inbound email clients source := by
  refine ⟨generate_eq_empty_iff ctx email clients source, ?_, ?_⟩
  · intro rendered
    obtain ⟨protocol, stream, client, made⟩ := not_unrendered_iff.1 rendered
    exact ⟨protocol, stream, Protocol.ofTag?_eq_some_iff.1 made.spoken, made.parsed,
      made.fansOut ctx address (dests stream made.parsed) source⟩
  · intro text stream other parsed parsed_other apart same_valid
    refine generate_of_sameLayers ctx parsed parsed_other (fun protocol _ => ?_) email clients
      source
    exact ⟨sameLayers_of_agreeApart apart _, ExternalProxy.listOfStream_congr same_valid⟩

/-! ## Records of all kinds -/

/-- A record with all fields. -/
def fullRecord : Json :=
  .obj [("forceTls", .str "tls"), ("dest", .str "cdn.example"), ("port", .ofInt 443),
    ("remark", .str "a\nb")]

/-- A record as an array, with the first three fields. -/
def arrayRecord : Json := .arr [.str "same", .str "2001:db8::1", .ofInt 8443]

/-- Both of them among records without a port, with a port out of range, and of a wrong type. -/
def mixedRecords : List Json :=
  [fullRecord, .obj [("dest", .str "no-port.example")],
    .obj [("dest", .str "relay.example"), ("port", .ofInt 70000)], arrayRecord, .str "none"]

/-- Stream settings with some external proxies. -/
def proxiedMembers (records : List Json) : Members :=
  [("network", .str "ws"), ("externalProxy", .arr records)]

/-- A trojan inbound with some external proxies. -/
def proxiedInbound (records : List Json) : Inbound :=
  { id := 1, remark := "Edge", enable := true, port := 443, protocol := "trojan"
    streamSettings := (Json.obj (proxiedMembers records)).compact }

/-- A client whose e-mail and password have line breaks. -/
def brokenClient : Client := { email := "kim\n@home", password := "top\nsecret" }

theorem parse?_proxiedInbound {records : List Json}
    (h : (Json.obj (proxiedMembers records)).ReadsBack) :
    Json.parse? (proxiedInbound records).streamSettings =
      some (.obj (proxiedMembers records)) :=
  Json.ReadsBack.parse?_compact h

theorem valid_mixedRecords : ExternalProxy.valid (.obj (proxiedMembers mixedRecords)) =
    ExternalProxy.valid (.obj (proxiedMembers [fullRecord, arrayRecord])) := by
  have kinds : mixedRecords.map (fun record => decide (ExternalProxy.IsValid record)) =
      [true, false, false, true, false] := by decide +kernel
  show mixedRecords.filter _ = [fullRecord, arrayRecord].filter _
  simp only [mixedRecords, List.map_cons, List.cons.injEq] at kinds
  simp [mixedRecords, kinds]

/-- Two of the records have a link each, and the links are those of these two. -/
theorem fan_out_mixedRecords :
    let text (records : List Json) := (generate relayedContext (proxiedInbound records)
      "kim\n@home" [brokenClient] (CyclicWords.ofList [])).1
    (Form.splitAt '\n' (text mixedRecords).toList).map Uri.place? =
        [some ("cdn.example", "443"), some ("[2001:db8::1]", "8443")] ∧
      text [fullRecord, arrayRecord] = text mixedRecords := by
  intro text
  have parsed : Json.parse? (proxiedInbound mixedRecords).streamSettings =
      some (.obj (proxiedMembers mixedRecords)) := parse?_proxiedInbound (by decide)
  have proxies : ExternalProxy.listOfStream (.obj (proxiedMembers mixedRecords)) =
      [⟨"tls", "cdn.example", 443, "a\nb"⟩, ⟨"same", "2001:db8::1", 8443, ""⟩] := by
    decide +kernel
  have dests : ∀ stream, Json.parse? (proxiedInbound mixedRecords).streamSettings = some stream →
      ∀ record ∈ ExternalProxy.valid stream, ∀ p, ExternalProxy.Reads record p →
        '\n' ∉ p.dest.toList := by
    intro stream read record listed p reads
    obtain rfl := Option.some.inj (parsed.symm.trans read)
    have there := ExternalProxy.mem_listOfStream_iff.2 ⟨record, listed, reads⟩
    simp only [proxies, List.mem_cons, List.not_mem_nil, or_false] at there
    rcases there with rfl | rfl <;> decide
  have address : '\n' ∉ relayedContext.address.toList := by decide
  obtain ⟨-, fans_out, same⟩ :=
    fan_out address dests "kim\n@home" [brokenClient] (CyclicWords.ofList [])
  have made : Rendering (proxiedInbound mixedRecords) "kim\n@home" [brokenClient] .trojan
      (.obj (proxiedMembers mixedRecords)) brokenClient :=
    ⟨by decide, parsed, by decide, nofun⟩
  constructor
  · obtain ⟨protocol, stream, tag, read, lines⟩ :=
      fans_out (not_unrendered_iff.2 ⟨_, _, _, made⟩)
    obtain rfl := Option.some.inj (parsed.symm.trans read)
    have spoken := Protocol.ofTag?_eq_some_iff.2 tag
    obtain rfl := Option.some.inj (made.spoken.symm.trans spoken)
    obtain ⟨points, reads, places⟩ := lines.places
    have found : (Form.splitAt '\n' (text mixedRecords).toList).map Uri.place? =
        points.map fun p => some (Uri.host p.dest, toString (p.port.toNat : Int)) := by
      obtain rfl := (ExternalProxy.reads_valid_iff.1 reads).trans proxies
      rw [← List.forall₂_eq_eq_eq, List.forall₂_map_left_iff, List.forall₂_map_right_iff]
      exact places (by simp)
    rw [found, ExternalProxy.reads_valid_iff.1 reads, proxies]
    decide
  · have parsed_valid : Json.parse? (proxiedInbound [fullRecord, arrayRecord]).streamSettings =
        some (.obj (proxiedMembers [fullRecord, arrayRecord])) := parse?_proxiedInbound (by decide)
    refine congrArg Prod.fst (same _ _ _ parsed parsed_valid ?_ valid_mixedRecords.symm)
    intro k hk
    simp [Json.get?, Members.get?, proxiedMembers, List.find?_cons, Ne.symm hk]

end Link
end ProxyFeed
