import ProxyFeed.Link.Reader
import ProxyFeed.Proofs.Json.Value
import ProxyFeed.Proofs.Link.Layers
import ProxyFeed.Proofs.Link.ParamOrder
import ProxyFeed.Proofs.Link.Shown
import ProxyFeed.Proofs.Link.UriReadBack

/-!
# Documents of vmess links read back

A vmess link carries its parameters as a JSON document.  The document of each endpoint is made from
one common set by overwriting a few keys, so what an external proxy imposes on its own link does not
show in the link of another one.

## What is here

* `ParamSet.parse?_document` — a document is read back as the entries of its set.
* `Vmess.Describes` — what a document says of the client and the endpoint.
* `Vmess.Overrides` — one document is another one but for what an external proxy changes.
* `Json.AgreeApart` — stream settings that differ in the external proxies at most.
* `Link.vmess_lines_read_back` — all links of a client.
-/

set_option autoImplicit false
namespace ProxyFeed

/-! ## Documents -/

namespace ParamSet

/-- The members of the document of a set. -/
def members (s : ParamSet) : Members := s.sorted.map fun e => (e.1, e.2.toJson)

theorem get?_members (s : ParamSet) (key : String) :
    Members.get? s.members key = (s.get? key).map ParamValue.toJson := by
  rw [← lookup_sorted]
  exact lookup_map_snd ParamValue.toJson key s.sorted

theorem keys_members (s : ParamSet) : s.members.keys = s.sorted.map (·.1) := by
  rw [members, Members.keys, List.map_map]
  rfl

theorem Distinct.nodup_members {s : ParamSet} (h : s.Distinct) : s.members.keys.Nodup := by
  rw [keys_members]
  exact (s.sorted_perm.map _).nodup_iff.2 h

/-- Values of parameters are leaves. -/
theorem leaves (p : Members → Prop) (es : List (String × ParamValue)) :
    Json.EveryObjectMembers p (es.map fun e => (e.1, e.2.toJson)) ∧
      Json.depthOfMembers (es.map fun e => (e.1, e.2.toJson)) = 0 := by
  induction es with
  | nil => exact ⟨trivial, rfl⟩
  | cons e es ih =>
    have leaf : e.2.toJson.EveryObject p ∧ e.2.toJson.depth = 0 := by
      cases e.2 with
      | text v => exact ⟨trivial, rfl⟩
      | int n => exact ⟨trivial, rfl⟩
    refine ⟨⟨leaf.1, ih.1⟩, ?_⟩
    rw [List.map_cons, Json.depthOfMembers, leaf.2, ih.2, Nat.max_self]

/-- **A document is read back as the entries of its set.** -/
theorem parse?_document {s : ParamSet} (distinct : s.Distinct)
    (unreserved : s.get? RawJson.embeddedKey = none) :
    Json.parse? s.document = some (.obj s.members) := by
  have first : s.members.keys.head? ≠ some RawJson.embeddedKey := by
    intro reserved
    have there := List.mem_of_mem_head? reserved
    rw [keys_members] at there
    obtain ⟨e, he, key_eq⟩ := List.mem_map.1 there
    have value := (distinct.mem_sorted_iff e.1 e.2).1 he
    rw [key_eq, unreserved] at value
    cases value
  have flat : s.toJson.depth = 1 :=
    congrArg (· + 1) (leaves (fun _ => True) s.sorted).2
  refine Json.parse?_pretty s.integral_toJson ⟨distinct.nodup_members, (leaves _ _).1⟩
    ⟨first, (leaves _ _).1⟩ ?_
  rw [flat]
  decide

end ParamSet

theorem Vmess.read?_vmessText (document : ParamSet) :
    Vmess.read? (Link.vmessText document).toList = Json.parse? document.document := by
  have shape : (Link.vmessText document).toList =
      Vmess.scheme ++ Base64.encode (utf8 document.document) := by
    have body : (base64 (utf8 document.document)).toList =
        Base64.encode (utf8 document.document) := String.toList_ofList
    have front : Vmess.scheme = "vmess://".toList := rfl
    rw [Link.vmessText, String.toList_append, body, front]
  have prefixed : Vmess.scheme.isPrefixOf (Link.vmessText document).toList = true := by
    rw [shape, List.isPrefixOf_iff_prefix]
    exact List.prefix_append _ _
  rw [Vmess.read?, if_pos prefixed, shape, List.drop_left]
  simp only [Base64.decode?_encode, Option.bind_eq_bind, Option.bind_some, textOfUtf8?_utf8]

/-! ## Where the keys stand -/

/-- A header type that was set before the transport is there, or another one in its place. -/
theorem Transport.type_writeDocument {out : ParamSet}
    (preset : ∃ s, out.get? "type" = some (.text s)) (t : Transport) (network : Network) :
    ∃ s, (t.writeDocument network out).get? "type" = some (.text s) := by
  rw [get?_writeDocument_eq]
  cases t.document? network "type" with
  | none => exact preset
  | some s => exact ⟨s, rfl⟩

namespace Link

/-- The keys that are written into a document for its endpoint. -/
def endpointKeys : List String := ["add", "port", "ps"]

theorem get?_vmessBase {key : String} (own : key ∉ ["id", "aid", "scy", "tls"])
    (transport : key ∉ Transport.documentKeys) (common : key ∉ Security.commonKeys)
    (stream : Json) (client : Client) (security : Security) :
    (vmessBase stream client security).get? key =
      if key = "net" then some (.text (Network.ofStream stream).tag)
      else if key = "v" then some (.text "2") else none := by
  rw [vmessBase, get?_fillDocument _ _ _ own transport common, ParamSet.get?_setText,
    ParamSet.get?_empty]

theorem type_vmessBase (stream : Json) (client : Client) (security : Security) :
    ∃ s, (vmessBase stream client security).get? "type" = some (.text s) := by
  rw [vmessBase, fillDocument, ParamSet.get?_setText_of_ne (by decide),
    ParamSet.get?_set_of_ne (by decide),
    ParamSet.get?_setText_of_ne (by decide), Security.get?_writeDocument (by decide) (by decide)]
  refine Transport.type_writeDocument ⟨"none", ?_⟩ _ _
  rw [ParamSet.get?_setText_of_ne (by decide), ParamSet.get?_setText_self]

theorem aid_vmessBase (stream : Json) (client : Client) (security : Security) :
    (vmessBase stream client security).get? "aid" = some (.int 0) := by
  rw [vmessBase, fillDocument, ParamSet.get?_setText_of_ne (by decide), ParamSet.get?_set_self]

variable (base : ParamSet) (e : Endpoint) (remark : String)

theorem get?_ps_vmessDocument : (vmessDocument base e remark).get? "ps" = some (.text remark) :=
  ParamSet.get?_setText_self _ _ _

theorem get?_port_vmessDocument :
    (vmessDocument base e remark).get? "port" = some (.int e.port) := by
  rw [vmessDocument, ParamSet.get?_setText_of_ne (by decide),
    get?_imposeOnDocument (by decide) (by decide), ParamSet.get?_set_self]

theorem get?_add_vmessDocument :
    (vmessDocument base e remark).get? "add" = some (.text e.address) := by
  rw [vmessDocument, ParamSet.get?_setText_of_ne (by decide),
    get?_imposeOnDocument (by decide) (by decide), ParamSet.get?_set_of_ne (by decide),
    ParamSet.get?_setText_self]

variable {e}

/-- A layer that an endpoint imposes is the one in its document. -/
theorem get?_tls_vmessDocument {mode : String} (forced : e.forcedSecurity = some mode) :
    (vmessDocument base e remark).get? "tls" = some (.text mode) := by
  rw [vmessDocument, ParamSet.get?_setText_of_ne (by decide), forced, imposeOnDocument]
  split
  · rw [ParamSet.get?_removeTlsIdentity (by decide), ParamSet.get?_setText_self]
  · rw [ParamSet.get?_setText_self]

/-- Without a layer there is no TLS identity. -/
theorem get?_identity_vmessDocument (forced : e.forcedSecurity = some SecurityMode.none.tag)
    {key : String} (h : key ∈ ParamSet.tlsIdentityKeys) :
    (vmessDocument base e remark).get? key = none := by
  have ps : key ≠ "ps" := fun same => absurd (same ▸ h) (by decide)
  rw [vmessDocument, ParamSet.get?_setText_of_ne ps, forced, imposeOnDocument, if_pos rfl,
    ParamSet.removeTlsIdentity, ParamSet.get?_removeAll, if_pos h]

/-- Everything else in a document comes from the common set. -/
theorem get?_vmessDocument_of_kept {key : String} (endpoint : key ∉ endpointKeys)
    (layer : e.forcedSecurity.isSome → key ≠ "tls")
    (identity : e.forcedSecurity = some SecurityMode.none.tag → key ∉ ParamSet.tlsIdentityKeys) :
    (vmessDocument base e remark).get? key = base.get? key := by
  simp only [endpointKeys, List.mem_cons, List.not_mem_nil, or_false, not_or] at endpoint
  obtain ⟨add, port, ps⟩ := endpoint
  have placed : ((base.setText "add" e.address).set "port" (.int e.port)).get? key =
      base.get? key := by
    rw [ParamSet.get?_set_of_ne port, ParamSet.get?_setText_of_ne add]
  rw [vmessDocument, ParamSet.get?_setText_of_ne ps]
  cases forced : e.forcedSecurity with
  | none => exact placed
  | some mode =>
    have tls : key ≠ "tls" := layer (by rw [forced]; rfl)
    rw [imposeOnDocument]
    split
    · next no_layer =>
      rw [ParamSet.get?_removeTlsIdentity (identity (no_layer ▸ forced)),
        ParamSet.get?_setText_of_ne tls, placed]
    · rw [ParamSet.get?_setText_of_ne tls, placed]

theorem unreserved_vmessDocument (stream : Json) (client : Client) (security : Security)
    (e : Endpoint) (remark : String) :
    (vmessDocument (vmessBase stream client security) e remark).get? RawJson.embeddedKey =
      none := by
  rw [get?_vmessDocument_of_kept _ _ (by decide) (fun _ => by decide) (fun _ => by decide),
    get?_vmessBase (by decide) (by decide) (by decide), if_neg (by decide),
    if_neg (by decide)]

end Link

/-! ## What a reader finds -/

namespace Vmess

/-- The members `ms` are those of a document with the given entries, and say where the endpoint is
and which client may connect. -/
structure Describes (document : ParamSet) (network : Network) (client : Client) (e : Endpoint)
    (name : String) (ms : Members) : Prop where
  increasing : ms.keys.Pairwise fun k l => utf8 k < utf8 l
  recovered : ∀ key, ms.get? key = (document.get? key).map ParamValue.toJson
  v : ms.get? "v" = some (.str "2")
  add : ms.get? "add" = some (.str e.address)
  port : ms.get? "port" = some (.ofInt e.port.toInt)
  type : ∃ header, ms.get? "type" = some (.str header)
  net : ms.get? "net" = some (.str network.tag)
  id : ms.get? "id" = some (.str client.id)
  aid : ms.get? "aid" = some (.ofInt 0)
  scy : ms.get? "scy" = some (.str client.security)
  ps : ms.get? "ps" = some (.str name)

/-- The members `ms` are those of `base` but for the place and the name of an external proxy, and
the layer it imposes. -/
structure Overrides (base : Members) (p : ExternalProxy) (name : String) (ms : Members) : Prop where
  add : ms.get? "add" = some (.str p.dest)
  port : ms.get? "port" = some (.ofInt p.port.toNat)
  ps : ms.get? "ps" = some (.str name)
  tls : ∀ mode, p.forcedSecurity = some mode → ms.get? "tls" = some (.str mode)
  identity : p.forcedSecurity = some "none" →
    ∀ key ∈ ["alpn", "sni", "fp", "allowInsecure"], ms.get? key = none
  kept : ∀ key, key ∉ ["add", "port", "ps"] → (p.forcedSecurity.isSome → key ≠ "tls") →
    (p.forcedSecurity = some "none" → key ∉ ["alpn", "sni", "fp", "allowInsecure"]) →
    ms.get? key = base.get? key

/-- An override leaves the spider path alone. -/
theorem Overrides.spx {base ms : Members} {p : ExternalProxy} {name : String}
    (h : Overrides base p name ms) : ms.get? "spx" = base.get? "spx" :=
  h.kept "spx" (by decide) (fun _ => by decide) (fun _ => by decide)

theorem describes_vmessDocument (stream : Json) (client : Client) (security : Security)
    (e : Endpoint) (remark : String) :
    let document := Link.vmessDocument (Link.vmessBase stream client security) e remark
    Describes document (Network.ofStream stream) client e remark document.members := by
  intro document
  have distinct : document.Distinct := Link.distinct_vmessDocument _ _ _ _ _
  have entry {key : String} {v : ParamValue} (h : document.get? key = some v) :
      document.members.get? key = some v.toJson := by
    rw [ParamSet.get?_members, h, Option.map_some]
  have kept {key : String} (endpoint : key ∉ Link.endpointKeys) (tls : key ≠ "tls")
      (identity : key ∉ ParamSet.tlsIdentityKeys) :
      document.get? key = (Link.vmessBase stream client security).get? key :=
    Link.get?_vmessDocument_of_kept _ _ endpoint (fun _ => tls) (fun _ => identity)
  obtain ⟨header, preset⟩ := Link.type_vmessBase stream client security
  have v : document.get? "v" = some (.text "2") := by
    rw [kept (by decide) (by decide) (by decide),
      Link.get?_vmessBase (by decide) (by decide) (by decide), if_neg (by decide), if_pos rfl]
  have net : document.get? "net" = some (.text (Network.ofStream stream).tag) := by
    rw [kept (by decide) (by decide) (by decide),
      Link.get?_vmessBase (by decide) (by decide) (by decide), if_pos rfl]
  have type : document.get? "type" = some (.text header) := by
    rw [kept (by decide) (by decide) (by decide), preset]
  have aid : document.get? "aid" = some (.int 0) := by
    rw [kept (by decide) (by decide) (by decide), Link.aid_vmessBase]
  exact {
    increasing := by
      rw [ParamSet.keys_members, List.pairwise_map]
      exact distinct.increasing
    recovered := ParamSet.get?_members document
    v := entry v
    add := entry (Link.get?_add_vmessDocument _ _ _)
    port := entry (Link.get?_port_vmessDocument _ _ _)
    type := ⟨header, entry type⟩
    net := entry net
    id := entry (Link.get?_id_vmessDocument _ _ _ _ _)
    aid := entry aid
    scy := entry (Link.get?_scy_vmessDocument _ _ _ _ _)
    ps := entry (Link.get?_ps_vmessDocument _ _ _) }

theorem overrides_vmessDocument (common : ParamSet) {direct : Endpoint}
    (unforced : direct.forcedSecurity = none) (p : ExternalProxy) (remark name : String) :
    Overrides (Link.vmessDocument common direct remark).members p name
      (Link.vmessDocument common (.ofProxy p) name).members where
  add := by
    rw [ParamSet.get?_members, Link.get?_add_vmessDocument]
    rfl
  port := by
    rw [ParamSet.get?_members, Link.get?_port_vmessDocument, Option.map_some, ParamValue.toJson,
      Link.toInt_port_ofProxy]
  ps := by
    rw [ParamSet.get?_members, Link.get?_ps_vmessDocument]
    rfl
  tls mode forced := by
    rw [ParamSet.get?_members, Link.get?_tls_vmessDocument (e := .ofProxy p) _ _ forced]
    rfl
  identity forced key hk := by
    rw [ParamSet.get?_members, Link.get?_identity_vmessDocument (e := .ofProxy p) _ _ forced hk]
    rfl
  kept key endpoint layer identity := by
    rw [ParamSet.get?_members, ParamSet.get?_members,
      Link.get?_vmessDocument_of_kept (e := .ofProxy p) _ _ endpoint layer identity,
      Link.get?_vmessDocument_of_kept _ _ endpoint (by simp [unforced]) (by simp [unforced])]

end Vmess

/-! ## Settings that differ in one member -/

/-- Values whose members agree, but for one key. -/
def Json.AgreeApart (key : String) (v w : Json) : Prop := ∀ k ≠ key, v.get? k = w.get? k

section ExternalProxy

variable {plain stream : Json} (same : plain.AgreeApart "externalProxy" stream)

include same

/-- External proxies are not part of a layer. -/
theorem Link.sameLayers_of_agreeApart (scope : SecurityScope) : SameLayers scope plain stream :=
  sameLayers_of_agreeOn fun key there => same key fun proxies =>
    externalProxy_not_mem_layerKeys scope stream (proxies ▸ there)

theorem Security.ofStream_eq_of_agreeApart (scope : SecurityScope) (spx : String) :
    ofStream plain scope spx = ofStream stream scope spx :=
  (Link.sameLayers_of_agreeApart same scope).security spx

theorem Link.drawSpider_eq_of_agreeApart {ρ : Type} [SpiderSource ρ] (scope : SecurityScope)
    (source : ρ) : drawSpider plain scope source = drawSpider stream scope source :=
  drawSpider_congr (sameLayers_of_agreeApart same scope) source

theorem Link.vmessBase_eq_of_agreeApart (client : Client) (security : Security) :
    vmessBase plain client security = vmessBase stream client security :=
  vmessBase_congr (sameLayers_of_agreeApart same .full) client security

end ExternalProxy

/-! ## The links of a client -/

namespace Link

/-- The document of a vmess client's link. -/
def vmessParams (stream : Json) (client : Client) (spx : String) (e : Endpoint) (name : String) :
    ParamSet :=
  vmessDocument (vmessBase stream client (Security.ofStream stream .full spx)) e name

theorem read?_vmessParams (stream : Json) (client : Client) (spx : String) (e : Endpoint)
    (name : String) : Vmess.read? (vmessText (vmessParams stream client spx e name)).toList =
      some (.obj (vmessParams stream client spx e name).members) := by
  rw [Vmess.read?_vmessText, vmessParams, ParamSet.parse?_document
    (distinct_vmessDocument _ _ _ _ _) (unreserved_vmessDocument _ _ _ _ _)]

section Generate

variable {ρ : Type} [SpiderSource ρ] (ctx : LinkContext) {inbound : Inbound} {email : String}
  {clients : List Client} (source : ρ) {stream : Json} {client : Client}

theorem generate_vmess (spoken : inbound.protocol? = some .vmess)
    (parsed : Json.parse? inbound.streamSettings = some stream)
    (found : clients.find? (·.email = email) = some client) :
    (generate ctx inbound email clients source).1 =
      "\n".intercalate ((Endpoint.all ctx inbound stream).map fun e => vmessText
        (vmessParams stream client (drawSpider stream .full source).1 e
          (remark ctx inbound client e))) := by
  simp only [generate, spoken, parsed, found, lines, vmess_eq_map]
  rfl

theorem splitAt_generate_vmess (spoken : inbound.protocol? = some .vmess)
    (parsed : Json.parse? inbound.streamSettings = some stream)
    (found : clients.find? (·.email = email) = some client) :
    Form.splitAt '\n' (generate ctx inbound email clients source).1.toList =
      (Endpoint.all ctx inbound stream).map fun e => (vmessText
        (vmessParams stream client (drawSpider stream .full source).1 e
          (remark ctx inbound client e))).toList := by
  rw [generate_vmess ctx source spoken parsed found,
    splitAt_joined fun _ _ => newline_not_mem_vmessText _]

/-- **Every vmess link says what it was made from, and an external proxy changes nothing but its
own link.**  Without external proxies, the inbound would give a document `base`; the document of
each proxy is that one, with the place, the name and the layer of the proxy. -/
theorem vmess_lines_read_back (spoken : inbound.protocol? = some .vmess)
    (parsed : Json.parse? inbound.streamSettings = some stream)
    (found : clients.find? (·.email = email) = some client) :
    List.Forall₂ (fun line e => ∃ ms, Vmess.read? line = some (.obj ms) ∧
        Vmess.Describes (vmessParams stream client (drawSpider stream .full source).1 e
          (remark ctx inbound client e)) (Network.ofStream stream) client e
          (remark ctx inbound client e) ms)
      (Form.splitAt '\n' (generate ctx inbound email clients source).1.toList)
      (Endpoint.all ctx inbound stream) ∧
    ∀ (text : String) (plain : Json), Json.parse? text = some plain →
      plain.AgreeApart "externalProxy" stream → ExternalProxy.listOfStream plain = [] →
      ExternalProxy.listOfStream stream ≠ [] →
      ∃ base, Vmess.read? (generate ctx { inbound with streamSettings := text } email clients
          source).1.toList = some (.obj base) ∧
        List.Forall₂ (fun line p => ∃ ms, Vmess.read? line = some (.obj ms) ∧
            Vmess.Overrides base p (ctx.remarkFormat.render inbound client.email p.remark) ms)
          (Form.splitAt '\n' (generate ctx inbound email clients source).1.toList)
          (ExternalProxy.listOfStream stream) := by
  rw [splitAt_generate_vmess ctx source spoken parsed found]
  constructor
  · rw [List.forall₂_map_left_iff, List.forall₂_same]
    exact fun e _ => ⟨_, read?_vmessParams _ _ _ _ _, Vmess.describes_vmessDocument _ _ _ _ _⟩
  · intro text plain parsed_plain same no_proxies proxies
    have endpoints : Endpoint.all ctx inbound stream =
        (ExternalProxy.listOfStream stream).map Endpoint.ofProxy := by
      rw [Endpoint.all]
      split
      · next none => exact absurd none proxies
      · rfl
    have direct : Endpoint.all ctx { inbound with streamSettings := text } plain =
        [Endpoint.direct ctx inbound] := by
      rw [Endpoint.all, no_proxies]
      rfl
    have spoken_plain : { inbound with streamSettings := text }.protocol? = some .vmess := spoken
    have one := generate_vmess ctx source spoken_plain parsed_plain found
    rw [direct, List.map_singleton, String.intercalate_singleton] at one
    refine ⟨_, by rw [one, read?_vmessParams], ?_⟩
    rw [endpoints, List.map_map, List.forall₂_map_left_iff, List.forall₂_same]
    intro p _
    refine ⟨_, read?_vmessParams _ _ _ _ _, ?_⟩
    rw [vmessParams, vmessParams, vmessBase_eq_of_agreeApart same,
      Security.ofStream_eq_of_agreeApart same, drawSpider_eq_of_agreeApart same]
    exact Vmess.overrides_vmessDocument _ rfl p _ _

end Generate

/-! ## An inbound behind two relays -/

/-- Stream settings without external proxies. -/
def plainMembers : Members :=
  [("network", .str "ws"), ("security", .str "reality"),
    ("realitySettings", .obj [("serverNames", .arr [.str "名.example"])])]

/-- Two external proxies, the first of which has no security layer. -/
def relays : Json :=
  .arr [.obj [("dest", .str "a.example"), ("port", .ofInt 80), ("forceTls", .str "none")],
    .obj [("dest", .str "b.example"), ("port", .ofInt 443)]]

/-- Stream settings with those external proxies. -/
def frontedMembers : Members := plainMembers ++ [("externalProxy", relays)]

/-- A vmess inbound with stream settings. -/
def vmessWith (ms : Members) : Inbound where
  remark := "Edge"
  enable := true
  port := 443
  protocol := "vmess"
  streamSettings := (Json.obj ms).pretty

/-- The links of a client of that inbound. -/
def vmessLinksWith (ms : Members) : List Char :=
  (generate relayedContext (vmessWith ms) "kim@home" [relayedClient]
    (CyclicWords.ofList [0, 4294967295])).1.toList

theorem parse?_frontedMembers :
    Json.parse? (vmessWith frontedMembers).streamSettings = some (.obj frontedMembers) :=
  Json.ReadsBack.parse?_pretty (by decide)

theorem parse?_plainMembers :
    Json.parse? (vmessWith plainMembers).streamSettings = some (.obj plainMembers) :=
  Json.ReadsBack.parse?_pretty (by decide)

/-- The server name and the layer of the inbound are missing in the link of the first relay only,
and the spider path is the same in all links. -/
theorem frontedLines_read_back : ∃ base first second : Members,
    Vmess.read? (vmessLinksWith plainMembers) = some (.obj base) ∧
    (Form.splitAt '\n' (vmessLinksWith frontedMembers)).map Vmess.read? =
      [some (.obj first), some (.obj second)] ∧
    first.get? "tls" = some (.str "none") ∧ first.get? "sni" = none ∧
    second.get? "tls" = base.get? "tls" ∧ second.get? "sni" = base.get? "sni" ∧
    first.get? "spx" = base.get? "spx" ∧ second.get? "spx" = base.get? "spx" := by
  have spoken : (vmessWith frontedMembers).protocol? = some .vmess := by decide
  have found : [relayedClient].find? (·.email = "kim@home") = some relayedClient := by decide
  have same : (Json.obj plainMembers).AgreeApart "externalProxy" (.obj frontedMembers) := by
    intro k hk
    simp [Json.get?, Members.get?, frontedMembers, List.find?_append, Ne.symm hk]
  have proxies : ExternalProxy.listOfStream (.obj frontedMembers) =
      [⟨"none", "a.example", 80, ""⟩, ⟨"", "b.example", 443, ""⟩] := by decide +kernel
  obtain ⟨-, overridden⟩ := vmess_lines_read_back relayedContext
    (CyclicWords.ofList [0, 4294967295]) spoken parse?_frontedMembers found
  obtain ⟨base, read_base, lines⟩ :=
    overridden _ _ parse?_plainMembers same rfl (by rw [proxies]; simp)
  rw [← vmessLinksWith, proxies] at lines
  generalize Form.splitAt '\n' (vmessLinksWith frontedMembers) = texts at lines
  cases lines with
  | cons one lines =>
    cases lines with
    | cons two lines =>
      cases lines
      obtain ⟨first, read_first, over_first⟩ := one
      obtain ⟨second, read_second, over_second⟩ := two
      refine ⟨base, first, second, read_base, by simp [read_first, read_second],
        over_first.tls "none" rfl, over_first.identity rfl "sni" (by decide), ?_, ?_,
        over_first.spx, over_second.spx⟩
      · exact over_second.kept "tls" (by decide) (by decide) (by decide)
      · exact over_second.kept "sni" (by decide) (by decide) (by decide)

end Link
end ProxyFeed
