import ProxyFeed.Proofs.Link.FanOut
import ProxyFeed.Proofs.Link.Identity
import ProxyFeed.Proofs.Link.ShortId

/-!
# The keys of a query

The query of a link has the fields of a transport, of a security layer and of a client in one set
of keys.  Each group of fields is read from a tree of which nothing is known, and a field that is
missing or mistyped there is missing in the query.  What remains is a set of keys that follow a few
rules, whatever the tree.

## What is here

* `Network.queryKeys` — the keys that a network defines.
* `Security.BelongToLayer` — security fields that are those of their layer, as all are that are read
  from stream settings.
* `Link.query?` — the field of a query under a key; `Link.get?_params` ties it to the parameters of
  a link, and `Link.ListsQuery` to the pairs that are read from its text.
* `Link.Disciplined` — the rules; `Link.query_disciplined` says that every query follows them.
-/

set_option autoImplicit false
namespace ProxyFeed

/-! ## Transport -/

namespace Network

theorem tag_ofTag (tag : String) : (ofTag tag).tag = tag := by
  unfold ofTag
  split_ifs <;> simp_all [Network.tag]

theorem ofTag_eq_tcp_iff {tag : String} : ofTag tag = .tcp ↔ tag = "tcp" := by
  constructor
  · intro tcp
    rw [← tag_ofTag tag, tcp]
    rfl
  · rintro rfl
    rfl

/-- The tag of the network in stream settings, which is tcp if they name none. -/
def tagIn (stream : Json) : String := (stream.text? "network").getD "tcp"

theorem ofStream_eq (stream : Json) : ofStream stream = ofTag (tagIn stream) := by
  rw [ofStream, tagIn]
  cases stream.text? "network" <;> rfl

/-- The keys that a network defines. -/
def queryKeys : Network → List String
  | .tcp => ["path", "host", "headerType"]
  | .kcp => ["headerType", "seed"]
  | .ws | .httpUpgrade | .xhttp => ["path", "host"]
  | .grpc => ["serviceName", "authority", "mode"]
  | .other _ => []

end Network

namespace Transport

variable {t : Transport} {network : Network} {key : String}

theorem mem_queryKeys_of_query? (h : t.query? network key ≠ none) : key ∈ network.queryKeys := by
  contrapose! h
  cases network <;> simp_all [Network.queryKeys, query?]

/-- A path or a host on tcp are those of an HTTP disguise. -/
theorem query?_headerType (h : t.query? .tcp key ≠ none) :
    t.query? .tcp "headerType" = some "http" := by
  rw [query?] at h ⊢
  split
  · rfl
  · next plain => exact absurd (if_neg plain) h

end Transport

/-! ## Security -/

namespace Security

/-- Security fields that are those of their layer. -/
structure BelongToLayer (s : Security) : Prop where
  spider : s.spx ≠ none ↔ s.mode = .reality
  reality : s.pbk ≠ none ∨ s.sid ≠ none → s.mode = .reality
  tls : s.alpn ≠ none ∨ s.allowInsecure = true → s.mode = .tls
  some_layer : s.sni ≠ none ∨ s.fp ≠ none → s.mode ≠ .none
  short_id : ∀ id, s.sid = some id → ShortId.IsShortId id

theorem belongToLayer_ofTls (block : Json) : (ofTls block).BelongToLayer := by
  constructor <;> simp [ofTls]

theorem belongToLayer_ofReality (block : Json) (spx : String) :
    { ofReality block with spx := some spx : Security }.BelongToLayer := by
  constructor
  case short_id =>
    intro id named
    obtain ⟨values, -, first⟩ := Option.bind_eq_some_iff.1 named
    exact ShortId.isShortId_of_first? first
  all_goals simp [ofReality]

/-- **The fields in stream settings are those of their layer.** -/
theorem belongToLayer_ofStream (stream : Json) (scope : SecurityScope) (spx : String) :
    (ofStream stream scope spx).BelongToLayer := by
  rw [ofStream]
  split
  · constructor <;> simp
  · cases stream.get? "tlsSettings" with
    | none => constructor <;> simp
    | some block => exact belongToLayer_ofTls block
  · cases stream.get? "realitySettings" with
    | none => constructor <;> simp
    | some block => exact belongToLayer_ofReality block spx

theorem belongToLayer_attachFlow {s : Security} (h : s.BelongToLayer) (flow : String)
    (network : Network) : (s.attachFlow flow network).BelongToLayer := by
  rw [attachFlow]
  split
  · exact ⟨h.spider, h.reality, h.tls, h.some_layer, h.short_id⟩
  · exact h

section Layer

variable {s : Security} (h : s.BelongToLayer) {key : String}

include h

theorem BelongToLayer.common?_reality (named : key ∈ ["pbk", "sid"])
    (there : s.common? key ≠ none) : s.mode = .reality := by
  simp only [List.mem_cons, List.not_mem_nil, or_false] at named
  rcases named with rfl | rfl
  · exact h.reality (.inl there)
  · exact h.reality (.inr there)

theorem BelongToLayer.common?_tls (named : key ∈ ["alpn", "allowInsecure"])
    (there : s.common? key ≠ none) : s.mode = .tls := by
  simp only [List.mem_cons, List.not_mem_nil, or_false] at named
  rcases named with rfl | rfl
  · exact h.tls (.inl there)
  · refine h.tls (.inr ?_)
    simpa [common?, identity?] using there

theorem BelongToLayer.common?_some_layer (named : key ∈ ["sni", "fp"])
    (there : s.common? key ≠ none) : s.mode ≠ .none := by
  simp only [List.mem_cons, List.not_mem_nil, or_false] at named
  rcases named with rfl | rfl
  · exact h.some_layer (.inl there)
  · exact h.some_layer (.inr there)

end Layer

end Security

namespace Link

/-! ## Parameters -/

/-- The security fields of a link in URI form. -/
def querySecurity (protocol : Protocol) (stream : Json) (client : Client) (spx : String) :
    Security :=
  match protocol with
  | .shadowsocks => Security.ofStream stream .tlsOnly spx
  | _ => clientSecurity stream client spx

/-- The field of a query under a key. -/
def query? (network : Network) (t : Transport) (s : Security) (key : String) : Option String :=
  if key = "type" then some network.tag
  else if key = "security" then some s.mode.tag
  else if key = "flow" then s.flow
  else (s.common? key).or (t.query? network key)

section Query

variable {key : String} (network : Network) (t : Transport) (s : Security)

theorem query?_common (h : key ∈ Security.commonKeys) : query? network t s key = s.common? key := by
  have apart : ∀ key ∈ Security.commonKeys, key ∉ Transport.queryKeys ∧
      key ∉ ["type", "security", "flow"] := by decide
  obtain ⟨transport, own⟩ := apart key h
  simp only [List.mem_cons, List.not_mem_nil, or_false, not_or] at own
  simp [query?, own, Transport.query?_eq_none transport]

theorem query?_transport (h : key ∈ Transport.queryKeys) :
    query? network t s key = t.query? network key := by
  simp only [Transport.queryKeys, List.mem_cons, List.not_mem_nil, or_false] at h
  rcases h with rfl | rfl | rfl | rfl | rfl | rfl | rfl <;>
    simp [query?, Security.common?, Security.identity?]

theorem query?_eq_none
    (h : key ∉ ["type", "security", "flow"] ++ Security.commonKeys ++ Transport.queryKeys) :
    query? network t s key = none := by
  simp only [List.mem_append, not_or] at h
  obtain ⟨⟨own, common⟩, transport⟩ := h
  simp only [Security.commonKeys, List.mem_cons, List.not_mem_nil, or_false, not_or] at own common
  simp [query?, Security.common?, Security.identity?, own, common,
    Transport.query?_eq_none transport]

end Query

theorem get?_uriBase (stream : Json) (s : Security) (key : String) :
    (uriBase stream s).get? key = (query? (Network.ofStream stream)
      (Transport.ofStream stream (Network.ofStream stream)) s key).map .text := by
  rw [uriBase, Security.writeQuery, ParamSet.get?_setText?, Security.get?_writeCommon_eq,
    ParamSet.get?_setText, Transport.get?_writeQuery_eq, ParamSet.get?_setText, ParamSet.get?_empty,
    query?]
  have own : ∀ key ∈ ["type", "security", "flow"], s.common? key = none := by
    simp [Security.common?, Security.identity?]
  have apart : ∀ key ∈ ["type", "security", "flow"], key ∉ Transport.queryKeys := by decide
  by_cases named : key ∈ ["type", "security", "flow"]
  · have free := Transport.query?_eq_none (apart key named)
      (Transport.ofStream stream (Network.ofStream stream)) (Network.ofStream stream)
    rw [own key named, free]
    simp only [List.mem_cons, List.not_mem_nil, or_false] at named
    rcases named with rfl | rfl | rfl <;> simp
  · simp only [List.mem_cons, List.not_mem_nil, or_false, not_or] at named
    simp [named, Option.map_or]

variable {protocol : Protocol} {stream : Json} {client : Client} {spx : String} {e : Endpoint}

theorem querySecurity_mode (protocol : Protocol) (stream : Json) (client : Client) (spx : String) :
    (querySecurity protocol stream client spx).mode = Security.modeOf stream (scope protocol) := by
  cases protocol with
  | shadowsocks => exact Security.ofStream_mode stream .tlsOnly spx
  | vmess | vless | trojan =>
    exact (clientSecurity_mode stream client spx).trans (Security.ofStream_mode stream .full spx)

theorem belongToLayer_querySecurity (protocol : Protocol) (stream : Json) (client : Client)
    (spx : String) : (querySecurity protocol stream client spx).BelongToLayer := by
  cases protocol with
  | shadowsocks => exact Security.belongToLayer_ofStream stream .tlsOnly spx
  | vmess | vless | trojan =>
    exact Security.belongToLayer_attachFlow (Security.belongToLayer_ofStream stream .full spx) _ _

/-- An endpoint that imposes no layer leaves the parameters as they are: without a layer there is no
identity to be removed. -/
theorem get?_uriParams_of_unforced (unforced : e.forcedSecurity = none) (key : String) :
    (uriParams (uriBase stream (clientSecurity stream client spx))
      (clientSecurity stream client spx) e).get? key =
        (uriBase stream (clientSecurity stream client spx)).get? key := by
  rw [uriParams_of_unforced stream unforced]
  split
  · next no_layer =>
    rw [ParamSet.removeTlsIdentity, ParamSet.get?_removeAll]
    split
    · next identity =>
      rw [clientSecurity_mode] at no_layer
      rw [get?_identity_uriBase identity, clientSecurity, Security.identity?_attachFlow,
        Security.identity?_of_no_layer no_layer]
      rfl
    · rfl
  · rfl

/-- **The query of a link for the inbound itself, key by key.** -/
theorem get?_params (unforced : e.forcedSecurity = none) (key : String) :
    (params protocol stream client spx e).get? key =
      (query? (Network.ofStream stream) (Transport.ofStream stream (Network.ofStream stream))
        (querySecurity protocol stream client spx) key).map .text := by
  rw [← get?_uriBase]
  cases protocol with
  | shadowsocks =>
    rw [params, shadowsocksParams_of_unforced stream unforced]
    rfl
  | vmess | vless | trojan => exact get?_uriParams_of_unforced unforced key

/-- Pairs that list the fields of a query. -/
structure ListsQuery (network : Network) (t : Transport) (s : Security)
    (pairs : List (String × String)) : Prop where
  nodup : (pairs.map (·.1)).Nodup
  mem_iff : ∀ {key value}, (key, value) ∈ pairs ↔ query? network t s key = some value

theorem listsQuery_params (unforced : e.forcedSecurity = none) :
    ListsQuery (Network.ofStream stream) (Transport.ofStream stream (Network.ofStream stream))
      (querySecurity protocol stream client spx) (params protocol stream client spx e).pairs where
  nodup := (distinct_params protocol stream client spx e).nodup_pairs
  mem_iff {key value} := by
    rw [(distinct_params protocol stream client spx e).mem_pairs_iff, get?_params unforced,
      Option.map_map]
    exact Iff.of_eq (congrArg (· = some value) (congrFun Option.map_id _))

section ListsQuery

variable {network : Network} {t : Transport} {s : Security} {pairs : List (String × String)}
  (h : ListsQuery network t s pairs) {key : String}

include h

theorem ListsQuery.mem_keys_iff : key ∈ pairs.map (·.1) ↔ query? network t s key ≠ none := by
  simp [Option.ne_none_iff_exists', ← h.mem_iff]

theorem ListsQuery.mem_common_iff (common : key ∈ Security.commonKeys) :
    key ∈ pairs.map (·.1) ↔ s.common? key ≠ none := by
  rw [h.mem_keys_iff, query?_common network t s common]

theorem ListsQuery.mem_transport_iff (transport : key ∈ Transport.queryKeys) :
    key ∈ pairs.map (·.1) ↔ t.query? network key ≠ none := by
  rw [h.mem_keys_iff, query?_transport network t s transport]

/-- The layer in a query is that of the fields. -/
theorem ListsQuery.layer_iff (m : SecurityMode) : ("security", m.tag) ∈ pairs ↔ s.mode = m := by
  rw [h.mem_iff]
  exact ⟨fun same => SecurityMode.tag_injective (Option.some.inj same), fun same => same ▸ rfl⟩

end ListsQuery

/-! ## The rules -/

/-- The rules for the pairs of a query, on a network with a tag and for a client with a flow. -/
structure Disciplined (protocol : Protocol) (tag flow : String) (pairs : List (String × String)) :
    Prop where
  /-- No key has two values. -/
  nodup : (pairs.map (·.1)).Nodup
  type : ("type", tag) ∈ pairs
  security : ∃ layer ∈ ["none", "tls", "reality"], ("security", layer) ∈ pairs
  spider : "spx" ∈ pairs.map (·.1) ↔ ("security", "reality") ∈ pairs
  reality : ∀ key ∈ ["pbk", "sid"], key ∈ pairs.map (·.1) → ("security", "reality") ∈ pairs
  tls : ∀ key ∈ ["alpn", "allowInsecure"], key ∈ pairs.map (·.1) → ("security", "tls") ∈ pairs
  some_layer : ∀ key ∈ ["sni", "fp"], key ∈ pairs.map (·.1) → ("security", "none") ∉ pairs
  flow_iff : ∀ value, ("flow", value) ∈ pairs ↔ value = flow ∧ flow ≠ "" ∧ tag = "tcp" ∧
    ("security", "reality") ∈ pairs ∧ protocol ≠ .shadowsocks
  short_id : ∀ id, ("sid", id) ∈ pairs → ShortId.IsShortId id
  shadowsocks : protocol = .shadowsocks → ("security", "reality") ∉ pairs
  transport : ∀ key ∈ Transport.queryKeys, key ∈ pairs.map (·.1) →
    key ∈ (Network.ofTag tag).queryKeys
  /-- A path or a host on tcp are those of an HTTP disguise. -/
  disguise : tag = "tcp" → ∀ key ∈ ["path", "host"], key ∈ pairs.map (·.1) →
    ("headerType", "http") ∈ pairs
  /-- There are no other keys. -/
  known : ∀ key ∈ pairs.map (·.1),
    key ∈ ["type", "security", "flow"] ++ Security.commonKeys ++ Transport.queryKeys

theorem modeOf_tlsOnly (stream : Json) : Security.modeOf stream .tlsOnly ≠ .reality := by
  rw [Security.modeOf]
  split
  · split_ifs <;> simp_all
  · simp

theorem querySecurity_flow {value : String} :
    (querySecurity protocol stream client spx).flow = some value ↔
      value = client.flow ∧ client.flow ≠ "" ∧ Network.ofStream stream = .tcp ∧
        (querySecurity protocol stream client spx).mode = .reality ∧ protocol ≠ .shadowsocks := by
  rw [querySecurity_mode]
  cases protocol with
  | shadowsocks => simp [querySecurity, Security.ofStream_flow]
  | vmess | vless | trojan =>
    show (clientSecurity stream client spx).flow = some value ↔ _ ∧ _ ∧ _ ∧
      Security.modeOf stream .full = .reality ∧ _
    rw [clientSecurity_flow, carriesFlow]
    split_ifs with carried
    · simp only [Bool.and_eq_true, decide_eq_true_eq] at carried
      simp [carried, eq_comm]
    · simp only [Bool.and_eq_true, decide_eq_true_eq] at carried
      refine iff_of_false (by simp) ?_
      rintro ⟨-, flow, tcp, reality, -⟩
      exact carried ⟨⟨reality, tcp⟩, flow⟩

/-- **The pairs of a query follow the rules**, whatever the stream settings are. -/
theorem disciplined_params (unforced : e.forcedSecurity = none) :
    Disciplined protocol (Network.tagIn stream) client.flow
      (params protocol stream client spx e).pairs := by
  have belong := belongToLayer_querySecurity protocol stream client spx
  have lists : ListsQuery _ _ _ (params protocol stream client spx e).pairs :=
    listsQuery_params unforced
  have is_tcp : Network.tagIn stream = "tcp" ↔ Network.ofStream stream = .tcp := by
    rw [Network.ofStream_eq, Network.ofTag_eq_tcp_iff]
  constructor
  case nodup => exact lists.nodup
  case type =>
    rw [lists.mem_iff, Network.ofStream_eq, query?, if_pos rfl, Network.tag_ofTag]
  case security =>
    refine ⟨_, ?_, (lists.layer_iff _).2 rfl⟩
    cases (querySecurity protocol stream client spx).mode <;> simp [SecurityMode.tag]
  case spider =>
    exact (lists.mem_common_iff (by decide)).trans
      (belong.spider.trans (lists.layer_iff .reality).symm)
  case reality =>
    intro key named there
    have common : ∀ key ∈ ["pbk", "sid"], key ∈ Security.commonKeys := by decide
    have shown := (lists.mem_common_iff (common key named)).1 there
    exact (lists.layer_iff .reality).2 (belong.common?_reality named shown)
  case tls =>
    intro key named there
    have common : ∀ key ∈ ["alpn", "allowInsecure"], key ∈ Security.commonKeys := by decide
    have shown := (lists.mem_common_iff (common key named)).1 there
    exact (lists.layer_iff .tls).2 (belong.common?_tls named shown)
  case some_layer =>
    intro key named there no_layer
    have common : ∀ key ∈ ["sni", "fp"], key ∈ Security.commonKeys := by decide
    have shown := (lists.mem_common_iff (common key named)).1 there
    exact belong.common?_some_layer named shown ((lists.layer_iff .none).1 no_layer)
  case flow_iff =>
    intro value
    rw [is_tcp, lists.mem_iff]
    exact querySecurity_flow.trans (by rw [← lists.layer_iff .reality]; rfl)
  case short_id =>
    intro id there
    rw [lists.mem_iff, query?_common _ _ _ (by decide)] at there
    exact belong.short_id id there
  case shadowsocks =>
    rintro rfl there
    have mode := (lists.layer_iff .reality).1 there
    rw [querySecurity_mode] at mode
    exact modeOf_tlsOnly stream mode
  case transport =>
    intro key named there
    rw [← Network.ofStream_eq]
    exact Transport.mem_queryKeys_of_query? ((lists.mem_transport_iff named).1 there)
  case disguise =>
    intro tcp key named there
    have transport : key ∈ Transport.queryKeys :=
      (by decide : ∀ key ∈ ["path", "host"], key ∈ Transport.queryKeys) key named
    have shown := (lists.mem_transport_iff transport).1 there
    rw [is_tcp.1 tcp] at lists shown
    rw [lists.mem_iff, query?_transport _ _ _ (by decide)]
    exact Transport.query?_headerType shown
  case known =>
    intro key there
    by_contra unknown
    exact lists.mem_keys_iff.1 there (query?_eq_none _ _ _ unknown)

/-- **The query of every link follows the rules.**  Without external proxies there is a link for
whatever stands in the stream settings, and its query can be read. -/
theorem query_disciplined {ρ : Type} [SpiderSource ρ] {inbound : Inbound} {email : String}
    {clients : List Client} (made : Rendering inbound email clients protocol stream client)
    (uri : protocol ≠ .vmess) (alone : ExternalProxy.valid stream = []) (ctx : LinkContext)
    (source : ρ) :
    let text := (generate ctx inbound email clients source).1
    text ≠ "" ∧ ∃ pairs, Uri.params? text.toList = some pairs ∧
      Disciplined protocol (Network.tagIn stream) client.flow pairs := by
  intro text
  obtain ⟨scheme, uri⟩ := exists_uriScheme uri
  have link := made.generate_alone ctx (ExternalProxy.listOfStream_eq_nil_iff.2 alone) source
  obtain ⟨u, text_eq, params_eq⟩ : ∃ u : Uri, text = u.text ∧ u.params = params protocol stream
      client (drawSpider stream (scope protocol) source).1 (Endpoint.direct ctx inbound) :=
    ⟨_, link.trans (congrArg Draft.text (draftAt_eq_uri uri ctx client _ _)), rfl⟩
  have rules : Disciplined protocol (Network.tagIn stream) client.flow u.params.pairs := by
    rw [params_eq]
    exact disciplined_params rfl
  rw [text_eq]
  exact ⟨uri_text_ne_empty u, _, Uri.params?_text u, rules⟩

/-! ## Mistyped settings -/

/-- Stream settings of Reality with a network, a server name and a fingerprint of wrong types, and
two texts of which the second names a short id. -/
def mistypedMembers : Members :=
  [("network", .ofInt 5), ("security", .str "reality"),
    ("realitySettings", .obj [("serverNames", .str "a.example"),
      ("shortIds", .arr [.str "zz", .str " ABCDEF12 "]),
      ("settings", .obj [("publicKey", .str "PUB"), ("fingerprint", .null)])]),
    ("tcpSettings", .obj [("header", .obj [("type", .str "http")])])]

/-- A vless inbound with those settings. -/
def mistypedInbound : Inbound :=
  { id := 1, remark := "Edge", enable := true, port := 443, protocol := "vless"
    streamSettings := (Json.obj mistypedMembers).compact }

/-- A client with a flow. -/
def flowClient : Client := { email := "kim@home", id := "own", flow := "xtls-rprx-vision" }

/-- The pairs in the query of the link of that client. -/
def mistypedPairs : List (String × String) :=
  [("flow", "xtls-rprx-vision"), ("headerType", "http"), ("pbk", "PUB"), ("security", "reality"),
    ("sid", "abcdef12"), ("spx", "/AAAAAAAAAAAAAAA"), ("type", "tcp")]

/-- The fields of wrong types are missing in that query, and it follows the rules. -/
theorem query_disciplined_mistyped :
    Uri.params? (generate relayedContext mistypedInbound "kim@home" [flowClient]
        (CyclicWords.ofList [0])).1.toList = some mistypedPairs ∧
      Disciplined .vless "tcp" "xtls-rprx-vision" mistypedPairs := by
  have parsed : Json.parse? mistypedInbound.streamSettings = some (.obj mistypedMembers) :=
    Json.ReadsBack.parse?_compact (by decide)
  have made : Rendering mistypedInbound "kim@home" [flowClient] .vless (.obj mistypedMembers)
      flowClient :=
    ⟨by decide, parsed, by decide, nofun⟩
  obtain ⟨-, pairs, read, disciplined⟩ :=
    query_disciplined made (by decide) rfl relayedContext (CyclicWords.ofList [0])
  have expected : Uri.params? (generate relayedContext mistypedInbound "kim@home" [flowClient]
      (CyclicWords.ofList [0])).1.toList = some mistypedPairs := by
    rw [generate_eq_rendered, rendered_of_found relayedContext made.spoken parsed made.found]
    decide +kernel
  obtain rfl := Option.some.inj (read.symm.trans expected)
  exact ⟨read, disciplined⟩

end Link
end ProxyFeed
