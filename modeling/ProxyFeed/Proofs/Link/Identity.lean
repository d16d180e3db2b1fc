import ProxyFeed.Proofs.Link.Endpoint

/-!
# Where a TLS identity stands

The TLS identity of an inbound is its ALPN list, server name, fingerprint and the leave to skip
certificates.  An endpoint may impose a layer of its own, and where the layer in force is none at
all, an identity has no place: a client would refuse the link, or ask for the wrong server.  The
renderers see to that in different places, and shadowsocks is exempt.

Everything here is said of the text of a line, as a reader finds it: the query of a URI is cut out
from the end of the line, so that the address in front may hold any character.

## What is here

* `Security.identity?_of_no_layer` — without a layer there is no identity.
* `Link.lookup?_uri` and `Link.lookup?_vmess` — what a line says under a key.
* `Link.ShowsLayer` — a line shows the layer in force at its endpoint, and the identity exactly if
  there is a layer.
* `Link.identity_follows_layer` — so does every line.
-/

set_option autoImplicit false
namespace ProxyFeed

/-! ## Reading one key -/

namespace Uri

/-- **The parameters of a link are found from its end**, whatever its address. -/
theorem params?_text (u : Uri) : params? u.text.toList = some u.params.pairs := by
  simp only [params?, last?_hash_text, last?_question_text, Option.bind_eq_bind, Option.bind_some,
    mapM_param?_query]

end Uri

namespace Link

theorem lookup?_uri {protocol : Protocol} (h : protocol ≠ .vmess) (u : Uri) (key : String) :
    lookup? protocol u.text key = (u.params.get? key).map fun v => .str v.queryText := by
  have found : u.params.pairs.find? (·.1 = key) = (u.params.get? key).map fun v =>
      (key, v.queryText) := by
    rw [ParamSet.pairs, List.find?_map, ← ParamSet.lookup_sorted, ParamSet.lookup]
    show ((u.params.sorted.find? (·.1 = key)).map fun e => (e.1, e.2.queryText)) = _
    cases held : u.params.sorted.find? (·.1 = key) with
    | none => rfl
    | some e =>
      have same : e.1 = key := by simpa using List.find?_some held
      rw [Option.map_some, same]
      rfl
  have read : lookup? protocol u.text key = (u.params.pairs.find? (·.1 = key)).bind fun p =>
      some (.str p.2) := by
    rw [lookup?]
    · rw [Uri.params?_text]
      rfl
    · exact h
  rw [read, found]
  cases u.params.get? key <;> rfl

theorem lookup?_vmess (stream : Json) (client : Client) (spx : String) (e : Endpoint)
    (name key : String) :
    lookup? .vmess (vmessText (vmessParams stream client spx e name)) key =
      ((vmessParams stream client spx e name).get? key).map ParamValue.toJson := by
  rw [lookup?, read?_vmessParams, Option.bind_some, Json.get?, ParamSet.get?_members]

end Link

/-! ## The identity in the fields -/

namespace Security

/-- The flow of a client is no part of it. -/
theorem identity?_attachFlow (s : Security) (flow : String) (network : Network) (key : String) :
    (s.attachFlow flow network).identity? key = s.identity? key := by
  rw [attachFlow]
  split <;> rfl

/-- Without a layer there is no identity. -/
theorem identity?_of_no_layer {stream : Json} {scope : SecurityScope} {spx : String}
    (h : (ofStream stream scope spx).mode = .none) (key : String) :
    (ofStream stream scope spx).identity? key = none := by
  rw [ofStream_mode] at h
  rw [ofStream, h]
  simp [identity?]

/-- **The writers put the identity of the fields under its keys.** -/
theorem get?_identity_writeCommon {key : String} (h : key ∈ ParamSet.tlsIdentityKeys)
    (s : Security) {out : ParamSet} (fresh : out.get? key = none) :
    (s.writeCommon out).get? key = (s.identity? key).map .text := by
  simp only [ParamSet.tlsIdentityKeys, List.mem_cons, List.not_mem_nil, or_false] at h
  rcases h with rfl | rfl | rfl | rfl <;>
    simp [writeCommon_eq, ParamSet.get?_setText?, identity?, fresh]

end Security

namespace Link

/-! ## The layer and the identity of a link -/

/-- The keys of an identity are used for nothing else. -/
theorem identity_keys_apart : ∀ key ∈ ParamSet.tlsIdentityKeys,
    key ∉ Transport.queryKeys ∧ key ∉ Transport.documentKeys ∧
      key ∉ ["v", "net", "type", "id", "aid", "scy", "security", "tls", "flow"] ∧
      key ∉ endpointKeys := by
  decide

section Base

variable {key : String} (h : key ∈ ParamSet.tlsIdentityKeys) (stream : Json) (security : Security)

include h

theorem get?_identity_uriBase :
    (uriBase stream security).get? key = (security.identity? key).map .text := by
  obtain ⟨transport, -, own, -⟩ := identity_keys_apart key h
  simp only [List.mem_cons, List.not_mem_nil, or_false, not_or] at own
  obtain ⟨-, -, type, -, -, -, layer, -, flow⟩ := own
  rw [uriBase, Security.writeQuery, ParamSet.get?_setText?_of_ne flow]
  refine Security.get?_identity_writeCommon h _ ?_
  rw [ParamSet.get?_setText_of_ne layer, Transport.get?_writeQuery transport,
    ParamSet.get?_setText_of_ne type, ParamSet.get?_empty]

theorem get?_identity_vmessBase (client : Client) :
    (vmessBase stream client security).get? key = (security.identity? key).map .text := by
  obtain ⟨-, transport, own, -⟩ := identity_keys_apart key h
  simp only [List.mem_cons, List.not_mem_nil, or_false, not_or] at own
  obtain ⟨v, net, type, id, aid, scy, -, tls, -⟩ := own
  have fresh : ((Transport.ofStream stream (Network.ofStream stream)).writeDocument
      (Network.ofStream stream) (((ParamSet.empty.setText "v" "2").setText "type" "none").setText
        "net" (Network.ofStream stream).tag)).get? key = none := by
    rw [Transport.get?_writeDocument transport, ParamSet.get?_setText_of_ne net,
      ParamSet.get?_setText_of_ne type, ParamSet.get?_setText_of_ne v, ParamSet.get?_empty]
  rw [vmessBase, fillDocument, ParamSet.get?_setText_of_ne scy, ParamSet.get?_set_of_ne aid,
    ParamSet.get?_setText_of_ne id, Security.writeDocument]
  refine Security.get?_identity_writeCommon h _ ?_
  split
  · exact fresh
  · rw [ParamSet.get?_setText_of_ne tls, fresh]

end Base

theorem get?_tls_vmessBase (stream : Json) (client : Client) (security : Security) :
    (vmessBase stream client security).get? "tls" =
      if security.mode = .none then none else some (.text security.mode.tag) := by
  rw [vmessBase, fillDocument, ParamSet.get?_setText_of_ne (by decide),
    ParamSet.get?_set_of_ne (by decide),
    ParamSet.get?_setText_of_ne (by decide), Security.writeDocument,
    Security.get?_writeCommon (by decide)]
  split
  · rw [Transport.get?_writeDocument (by decide), ParamSet.get?_setText_of_ne (by decide),
      ParamSet.get?_setText_of_ne (by decide), ParamSet.get?_setText_of_ne (by decide),
      ParamSet.get?_empty]
  · rw [ParamSet.get?_setText_self]

/-- The layer in force is the one the endpoint imposes, or else that of the inbound. -/
theorem get?_security_uriParams (base : ParamSet) (security : Security) (e : Endpoint) :
    (uriParams base security e).get? "security" =
      some (.text (e.forcedSecurity.getD security.mode.tag)) := by
  rw [uriParams]
  split
  · rw [ParamSet.get?_removeTlsIdentity (by decide), ParamSet.get?_setText_self, effectiveMode]
  · rw [ParamSet.get?_setText_self, effectiveMode]

/-- An identity stays exactly if there is a layer in force. -/
theorem get?_identity_uriParams {key : String} (h : key ∈ ParamSet.tlsIdentityKeys)
    (base : ParamSet) (security : Security) (e : Endpoint) :
    (uriParams base security e).get? key =
      if e.forcedSecurity.getD security.mode.tag = "none" then none else base.get? key := by
  have layer : key ≠ "security" := fun same => absurd (same ▸ h) (by decide)
  rw [uriParams, effectiveMode, SecurityMode.tag]
  split
  · rw [ParamSet.removeTlsIdentity, ParamSet.get?_removeAll, if_pos h]
  · rw [ParamSet.get?_setText_of_ne layer]

/-- No endpoint changes anything else. -/
theorem get?_uriParams_of_kept {key : String} (layer : key ≠ "security")
    (identity : key ∉ ParamSet.tlsIdentityKeys) (base : ParamSet) (security : Security)
    (e : Endpoint) : (uriParams base security e).get? key = base.get? key := by
  rw [uriParams]
  split
  · rw [ParamSet.get?_removeTlsIdentity identity, ParamSet.get?_setText_of_ne layer]
  · rw [ParamSet.get?_setText_of_ne layer]

/-- The identity of a vmess link: that of the inbound, unless no layer is in force. -/
theorem get?_identity_vmessParams {key : String} (h : key ∈ ParamSet.tlsIdentityKeys)
    (stream : Json) (client : Client) (spx : String) (e : Endpoint) (name : String) :
    let security := Security.ofStream stream .full spx
    (vmessParams stream client spx e name).get? key =
      if e.forcedSecurity.getD security.mode.tag = "none" then none
      else (security.identity? key).map .text := by
  intro security
  have base := get?_identity_vmessBase h stream security client
  obtain ⟨-, -, own, endpoint⟩ := identity_keys_apart key h
  have tls : key ≠ "tls" := by
    rintro rfl
    simp at own
  rw [vmessParams]
  split
  · next no_layer =>
    cases forced : e.forcedSecurity with
    | some mode =>
      rw [forced, Option.getD_some] at no_layer
      exact get?_identity_vmessDocument _ _ (forced.trans (congrArg some no_layer)) h
    | none =>
      rw [forced, Option.getD_none] at no_layer
      have mode : security.mode = .none := SecurityMode.tag_injective no_layer
      rw [get?_vmessDocument_of_kept _ _ endpoint (fun _ => tls) (by simp [forced]), base,
        Security.identity?_of_no_layer mode]
      rfl
  · next layer =>
    have kept : e.forcedSecurity = some SecurityMode.none.tag →
        key ∉ ParamSet.tlsIdentityKeys := by
      intro forced
      exact absurd (by rw [forced]; rfl) layer
    rw [get?_vmessDocument_of_kept _ _ endpoint (fun _ => tls) kept, base]

/-- A vmess link without a layer need not say so. -/
theorem get?_tls_vmessParams (stream : Json) (client : Client) (spx : String) (e : Endpoint)
    (name : String) :
    ((vmessParams stream client spx e name).get? "tls").getD (.text "none") =
      .text (e.forcedSecurity.getD (Security.ofStream stream .full spx).mode.tag) := by
  rw [vmessParams]
  cases forced : e.forcedSecurity with
  | some mode => rw [get?_tls_vmessDocument _ _ forced]; rfl
  | none =>
    rw [get?_vmessDocument_of_kept _ _ (by decide) (by simp [forced]) (by simp [forced]),
      get?_tls_vmessBase]
    split
    · next mode => rw [mode]; rfl
    · rfl

/-! ## The lines of a client -/

/-- A line shows the layer in force at its endpoint: the one the endpoint imposes, or else that of
the inbound.  It shows the TLS identity of the inbound as well, unless no layer is in force;
shadowsocks shows it in any case. -/
structure ShowsLayer (protocol : Protocol) (security : Security) (e : Endpoint) (line : String) :
    Prop where
  /-- A query names the layer. -/
  query : protocol ≠ .vmess → lookup? protocol line "security" =
    some (.str (e.forcedSecurity.getD security.mode.tag))
  /-- A document that names none means that there is none. -/
  document : protocol = .vmess → (lookup? protocol line "tls").getD (.str "none") =
    .str (e.forcedSecurity.getD security.mode.tag)
  identity : ∀ key ∈ ["alpn", "sni", "fp", "allowInsecure"], lookup? protocol line key =
    if protocol ≠ .shadowsocks ∧ e.forcedSecurity.getD security.mode.tag = "none" then none
    else (security.identity? key).map .str

/-- The client's flow changes neither layer nor identity. -/
theorem clientSecurity_mode (stream : Json) (client : Client) (spx : String) :
    (clientSecurity stream client spx).mode = (Security.ofStream stream .full spx).mode := by
  rw [clientSecurity, Security.attachFlow]
  split <;> rfl

section Lines

variable (ctx : LinkContext) (inbound : Inbound) (stream : Json) (client : Client) (spx : String)
  (e : Endpoint)

/-- What the parameters of a vless or trojan link say, their line says. -/
theorem showsLayer_uriParams {protocol : Protocol} (full : scope protocol = .full)
    (uri : protocol ≠ .vmess) (u : Uri) (made : u.params = uriParams
      (uriBase stream (clientSecurity stream client spx)) (clientSecurity stream client spx) e) :
    ShowsLayer protocol (Security.ofStream stream (scope protocol) spx) e u.text where
  query _ := by
    rw [lookup?_uri uri, made, get?_security_uriParams, clientSecurity_mode, full]
    rfl
  document vmess := absurd vmess uri
  identity key h := by
    have other : protocol ≠ .shadowsocks := by
      rintro rfl
      simp [scope] at full
    rw [lookup?_uri uri, made, get?_identity_uriParams h, get?_identity_uriBase h,
      clientSecurity_mode, full, clientSecurity, Security.identity?_attachFlow]
    simp only [other, ne_eq, not_false_eq_true, true_and]
    split
    · rfl
    · rw [Option.map_map]
      rfl

/-- **The line of every endpoint shows the layer in force there.** -/
theorem showsLayer_draftAt (protocol : Protocol) :
    ShowsLayer protocol (Security.ofStream stream (scope protocol) spx) e
      (draftAt ctx inbound protocol stream client spx e).text := by
  cases protocol with
  | vmess =>
    refine ⟨fun uri => absurd rfl uri, fun _ => ?_, fun key h => ?_⟩
    · rw [draftAt, Draft.text, lookup?_vmess, ← ParamValue.toJson, Option.getD_map,
        get?_tls_vmessParams]
      rfl
    · rw [draftAt, Draft.text, lookup?_vmess, get?_identity_vmessParams h]
      simp only [scope, ne_eq, reduceCtorEq, not_false_eq_true, true_and]
      split
      · rfl
      · rw [Option.map_map]
        rfl
  | vless => exact showsLayer_uriParams stream client spx e rfl (by decide) _ rfl
  | trojan => exact showsLayer_uriParams stream client spx e rfl (by decide) _ rfl
  | shadowsocks =>
    refine ⟨fun _ => ?_, fun vmess => absurd vmess (by decide), fun key h => ?_⟩
    · rw [draftAt, Draft.text, lookup?_uri (by decide), params, shadowsocksParams,
        ParamSet.get?_setText_self]
      rfl
    · have layer : key ≠ "security" := fun same => absurd (same ▸ h) (by decide)
      rw [draftAt, Draft.text, lookup?_uri (by decide), params, shadowsocksParams,
        ParamSet.get?_setText_of_ne layer, get?_identity_uriBase h, Option.map_map]
      rfl

theorem get?_params_of_kept (protocol : Protocol) {key : String} (layer : key ≠ "security")
    (identity : key ∉ ParamSet.tlsIdentityKeys) (e e' : Endpoint) :
    (params protocol stream client spx e).get? key =
      (params protocol stream client spx e').get? key := by
  cases protocol with
  | vmess | vless | trojan =>
    exact (get?_uriParams_of_kept layer identity _ _ e).trans
      (get?_uriParams_of_kept layer identity _ _ e').symm
  | shadowsocks =>
    exact (ParamSet.get?_setText_of_ne layer _ _).trans
      (ParamSet.get?_setText_of_ne layer _ _).symm

/-- **Apart from layer and identity, the query of a link does not depend on its endpoint.** -/
theorem lookup?_draftAt_of_kept {protocol : Protocol} (uri : protocol ≠ .vmess) {key : String}
    (layer : key ≠ "security") (identity : key ∉ ParamSet.tlsIdentityKeys) (e e' : Endpoint) :
    lookup? protocol (draftAt ctx inbound protocol stream client spx e).text key =
      lookup? protocol (draftAt ctx inbound protocol stream client spx e').text key := by
  cases protocol with
  | vmess => exact absurd rfl uri
  | vless | trojan | shadowsocks =>
    rw [draftAt, draftAt, Draft.text, Draft.text, lookup?_uri uri, lookup?_uri uri,
      get?_params_of_kept stream client spx _ layer identity e e']

end Lines

/-- **A TLS identity is shown exactly where a layer is in force.**  The links that are rendered are
one for each endpoint, in turn.  Each shows the layer that its endpoint imposes, or else that of the
inbound, and the identity of the inbound unless there is no layer; under shadowsocks it shows the
identity in any case.  All queries agree on every other key. -/
theorem identity_follows_layer {ρ : Type} [SpiderSource ρ] (ctx : LinkContext) {inbound : Inbound}
    {email : String} {clients : List Client} (source : ρ) {protocol : Protocol} {stream : Json}
    {client : Client} (spoken : inbound.protocol? = some protocol)
    (parsed : Json.parse? inbound.streamSettings = some stream)
    (found : clients.find? (·.email = email) = some client) :
    let links := (rendered ctx inbound email clients source).1
    let spx := (drawSpider stream (scope protocol) source).1
    (generate ctx inbound email clients source).1 = "\n".intercalate links ∧
      List.Forall₂ (ShowsLayer protocol (Security.ofStream stream (scope protocol) spx))
        (linkedEndpoints ctx inbound protocol stream) links ∧
      (protocol ≠ .vmess → ∀ l ∈ links, ∀ l' ∈ links,
        ∀ key ∉ ["security", "alpn", "sni", "fp", "allowInsecure"],
          lookup? protocol l key = lookup? protocol l' key) := by
  intro links spx
  have links_eq : links = (linkedEndpoints ctx inbound protocol stream).map fun e =>
      (draftAt ctx inbound protocol stream client spx e).text := by
    rw [← lines_eq_map]
    exact congrArg Prod.fst (rendered_of_found ctx spoken parsed found source)
  refine ⟨congrArg Prod.fst (generate_eq_rendered ctx inbound email clients source), ?_, ?_⟩
  · rw [links_eq, List.forall₂_map_right_iff, List.forall₂_same]
    exact fun e _ => showsLayer_draftAt ctx inbound stream client spx e protocol
  · intro uri l hl l' hl' key other
    rw [links_eq] at hl hl'
    obtain ⟨e, -, rfl⟩ := List.mem_map.1 hl
    obtain ⟨e', -, rfl⟩ := List.mem_map.1 hl'
    obtain ⟨layer, identity⟩ := not_or.1 (mt List.mem_cons.2 other)
    exact lookup?_draftAt_of_kept ctx inbound stream client spx uri layer identity e e'

/-- A vless inbound behind two relays, the first of which has no security layer. -/
def vlessFronted : Inbound := { vmessWith frontedMembers with protocol := "vless" }

/-- The server name of the inbound is missing in the link of the first relay only, and both links
show the same spider path. -/
theorem identity_follows_layer_fronted : ∃ first second,
    (rendered relayedContext vlessFronted "kim@home" [relayedClient]
      (CyclicWords.ofList [0])).1 = [first, second] ∧
    lookup? .vless first "security" = some (.str "none") ∧ lookup? .vless first "sni" = none ∧
    lookup? .vless second "security" = some (.str "reality") ∧
    lookup? .vless second "sni" = some (.str "名.example") ∧
    lookup? .vless first "spx" = lookup? .vless second "spx" := by
  have spoken : vlessFronted.protocol? = some .vless := by decide
  have found : [relayedClient].find? (·.email = "kim@home") = some relayedClient := by decide
  obtain ⟨-, lines, same⟩ := identity_follows_layer relayedContext (CyclicWords.ofList [0]) spoken
    parse?_frontedMembers found
  have endpoints : linkedEndpoints relayedContext vlessFronted .vless (.obj frontedMembers) =
      [⟨"a.example", 80, some "none", ""⟩, ⟨"b.example", 443, none, ""⟩] := by decide +kernel
  have mode (spx : String) :
      (Security.ofStream (.obj frontedMembers) (scope .vless) spx).mode = .reality := by
    rw [Security.ofStream_mode]
    decide
  have sni (spx : String) :
      (Security.ofStream (.obj frontedMembers) (scope .vless) spx).identity? "sni" =
        some "名.example" := rfl
  rw [endpoints] at lines
  generalize (rendered relayedContext vlessFronted "kim@home" [relayedClient]
    (CyclicWords.ofList [0])).1 = links at lines same
  obtain ⟨first, rest, one, later, rfl⟩ := List.forall₂_cons_left_iff.1 lines
  obtain ⟨second, none_left, two, last, rfl⟩ := List.forall₂_cons_left_iff.1 later
  obtain rfl := List.forall₂_nil_left_iff.1 last
  refine ⟨first, second, rfl, one.query (by decide), ?_, ?_, ?_, ?_⟩
  · rw [one.identity "sni" (by decide)]
    rfl
  · rw [two.query (by decide), mode]
    rfl
  · rw [two.identity "sni" (by decide), mode, sni]
    rfl
  · exact same (by decide) first (by simp) second (by simp) "spx" (by decide)

end Link
end ProxyFeed
