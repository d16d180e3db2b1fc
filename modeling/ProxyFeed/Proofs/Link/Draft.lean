import ProxyFeed.Proofs.Link.UriReadBack
import ProxyFeed.Proofs.Link.VmessReadBack

/-!
# Links before they are written

The spider path of a link ends up under form encoding in a query, or in a JSON document under
base64.  So that two links can be compared apart from it, a link is looked at here as the parts it
is made from: its spider path can then be overwritten with a fixed text, and the text written anew.

Overwriting a value commutes with every operation on other keys, which is why a path that is
overwritten at the end gives the link that would have been made with the other path from the start.

## What is here

* `ParamSet.overwrite` — another value for a key that has one; it commutes with the operations.
* `Link.Draft` — a link before it is written, with `Draft.text`, the spider path `Draft.spider?`
  that a reader finds in the text, and `Draft.withSpider`, which overwrites it.
* `Link.drafts` — the links of a client; `Link.lines_eq_drafts` ties them to their texts.
* `Link.drafts_withSpider` — the links of a Reality inbound are one function of their spider path.
* `Link.spider?_of_mem_drafts` — which all of them show.
-/

set_option autoImplicit false
namespace ProxyFeed

/-! ## Overwriting a value

Overwriting differs from setting in that nothing is added, so it can be moved past every operation
on another key without a look at the keys that are there. -/

namespace ParamSet

/-- Gives a key another value, if it has one. -/
def overwrite (s : ParamSet) (key : String) (v : ParamValue) : ParamSet :=
  ⟨s.entries.map fun e => if e.1 = key then (key, v) else e⟩

variable {s : ParamSet} {key : String}

theorem set_eq (s : ParamSet) (k : String) (w : ParamValue) :
    s.set k w = if k ∈ s.entries.map (·.1) then s.overwrite k w else ⟨s.entries ++ [(k, w)]⟩ := by
  rw [set]
  simp only [Keyed.any_iff]
  rfl

theorem keys_overwrite (s : ParamSet) (key : String) (v : ParamValue) :
    (s.overwrite key v).entries.map (·.1) = s.entries.map (·.1) :=
  Keyed.keys_replace s.entries key v

theorem overwrite_overwrite (s : ParamSet) (key : String) (w v : ParamValue) :
    (s.overwrite key w).overwrite key v = s.overwrite key v := by
  simp only [overwrite, List.map_map, mk.injEq]
  refine List.map_congr_left fun e _ => ?_
  by_cases he : e.1 = key <;> simp [he]

theorem overwrite_comm {k : String} (h : k ≠ key) (s : ParamSet) (w v : ParamValue) :
    (s.overwrite k w).overwrite key v = (s.overwrite key v).overwrite k w := by
  simp only [overwrite, List.map_map, mk.injEq]
  refine List.map_congr_left fun e _ => ?_
  by_cases hk : e.1 = k
  · simp [hk, h]
  · by_cases he : e.1 = key <;> simp [hk, he, Ne.symm h]

/-- Nothing is overwritten if the key is not there. -/
theorem overwrite_of_absent (h : key ∉ s.entries.map (·.1)) (v : ParamValue) :
    s.overwrite key v = s :=
  congrArg ParamSet.mk (Keyed.replace_of_not_mem h (key, v))

/-- Overwriting the value that was just set is setting the other one. -/
theorem overwrite_set_self (s : ParamSet) (key : String) (w v : ParamValue) :
    (s.set key w).overwrite key v = s.set key v := by
  rw [set_eq, set_eq]
  split
  · exact overwrite_overwrite s key w v
  · next absent =>
    have before := congrArg ParamSet.entries (overwrite_of_absent absent v)
    simp only [overwrite] at before
    simp [overwrite, before]

theorem overwrite_set {k : String} (h : k ≠ key) (s : ParamSet) (w v : ParamValue) :
    (s.set k w).overwrite key v = (s.overwrite key v).set k w := by
  rw [set_eq, set_eq, keys_overwrite]
  split
  · exact overwrite_comm h s w v
  · simp [overwrite, h]

theorem overwrite_setText {k : String} (h : k ≠ key) (s : ParamSet) (w : String) (v : ParamValue) :
    (s.setText k w).overwrite key v = (s.overwrite key v).setText k w :=
  overwrite_set h s _ v

theorem overwrite_setText? {k : String} (h : k ≠ key) (s : ParamSet) (w : Option String)
    (v : ParamValue) : (s.setText? k w).overwrite key v = (s.overwrite key v).setText? k w := by
  cases w with
  | none => rfl
  | some w => exact overwrite_setText h s w v

theorem overwrite_removeAll (s : ParamSet) (keys : List String) (key : String) (v : ParamValue) :
    (s.removeAll keys).overwrite key v = (s.overwrite key v).removeAll keys := by
  simp only [overwrite, removeAll, List.filter_map, mk.injEq]
  refine congrArg _ (List.filter_congr fun e _ => ?_)
  by_cases he : e.1 = key <;> simp [he]

theorem overwrite_removeTlsIdentity (s : ParamSet) (key : String) (v : ParamValue) :
    s.removeTlsIdentity.overwrite key v = (s.overwrite key v).removeTlsIdentity :=
  overwrite_removeAll s tlsIdentityKeys key v

end ParamSet

/-! ## The spider path in the security fields -/

namespace Security

/-- Fields with another spider path. -/
def withSpider (s : Security) (path : String) : Security := { s with spx := some path }

/-- The spider path is used as it comes. -/
theorem withSpider_ofStream {stream : Json} {scope : SecurityScope}
    (reality : modeOf stream scope = .reality) (spx path : String) :
    (ofStream stream scope spx).withSpider path = ofStream stream scope path := by
  rw [ofStream, ofStream, reality]
  rfl

theorem withSpider_attachFlow (s : Security) (flow : String) (network : Network) (path : String) :
    (s.attachFlow flow network).withSpider path = (s.withSpider path).attachFlow flow network := by
  show (attachFlow s flow network).withSpider path =
    if s.mode = .reality ∧ network = .tcp ∧ flow ≠ "" then _ else _
  rw [attachFlow]
  split <;> rfl

variable {s : Security} {spx : String}

theorem overwrite_writeCommon (there : s.spx = some spx) (out : ParamSet) (path : String) :
    (s.writeCommon out).overwrite "spx" (.text path) = (s.withSpider path).writeCommon out := by
  rw [writeCommon, there]
  exact ParamSet.overwrite_set_self _ _ _ _

theorem get?_spx_writeCommon (there : s.spx = some spx) (out : ParamSet) :
    (s.writeCommon out).get? "spx" = some (.text spx) := by
  rw [writeCommon, there]
  exact ParamSet.get?_setText_self _ _ _

theorem overwrite_writeQuery (there : s.spx = some spx) (out : ParamSet) (path : String) :
    (s.writeQuery out).overwrite "spx" (.text path) = (s.withSpider path).writeQuery out := by
  rw [writeQuery, ParamSet.overwrite_setText? (by decide), overwrite_writeCommon there]
  rfl

theorem overwrite_writeDocument (there : s.spx = some spx) (out : ParamSet) (path : String) :
    (s.writeDocument out).overwrite "spx" (.text path) = (s.withSpider path).writeDocument out := by
  rw [writeDocument, overwrite_writeCommon there]
  rfl

end Security

namespace Link

/-! ## Drafts -/

/-- A link before it is written: the parts of a URI, or the entries of a vmess document. -/
inductive Draft where
  | uri (parts : Uri)
  | vmess (document : ParamSet)
deriving DecidableEq, Repr

/-- What a reader of a query finds under a key. -/
theorem find?_params (s : ParamSet) (key : String) :
    (((Form.decode s.query.toList).mapM Uri.param?).bind fun pairs =>
      (pairs.find? (·.1 = key)).map (·.2)) = (s.get? key).map ParamValue.queryText := by
  rw [Uri.mapM_param?_query, Option.bind_some, ParamSet.pairs, ParamSet.lookup_map_snd,
    ParamSet.lookup_sorted]

namespace Draft

/-- The text of a link. -/
def text : Draft → String
  | .uri parts => parts.text
  | .vmess document => vmessText document

/-- The spider path that a reader finds in the query of a URI, or in the document of a vmess
link. -/
def spider? : Draft → Option String
  | .uri parts =>
    ((Form.decode parts.params.query.toList).mapM Uri.param?).bind fun pairs =>
      (pairs.find? (·.1 = "spx")).map (·.2)
  | .vmess document => (Vmess.read? (vmessText document).toList).bind (·.text? "spx")

/-- A link with its spider path overwritten, if it has one. -/
def withSpider (path : String) : Draft → Draft
  | .uri parts => .uri { parts with params := parts.params.overwrite "spx" (.text path) }
  | .vmess document => .vmess (document.overwrite "spx" (.text path))

end Draft

/-- The links of a client, one for each endpoint. -/
def drafts (ctx : LinkContext) (inbound : Inbound) (protocol : Protocol) (stream : Json)
    (client : Client) (spx : String) : List Draft :=
  let uri (scheme credential : String) : List Draft :=
    (Endpoint.all ctx inbound stream).map fun e => .uri ⟨scheme, credential, e.address, e.port,
      params protocol stream client spx e, remark ctx inbound client e⟩
  match protocol with
  | .vmess =>
    (Endpoint.all ctx inbound stream).map fun e =>
      .vmess (vmessParams stream client spx e (remark ctx inbound client e))
  | .vless => uri "vless" client.id
  | .trojan => uri "trojan" client.password
  | .shadowsocks =>
    match shadowsocksCredential? inbound client with
    | none => []
    | some credential => uri "ss" credential

theorem lines_eq_drafts (ctx : LinkContext) (inbound : Inbound) (protocol : Protocol)
    (stream : Json) (client : Client) (spx : String) :
    lines ctx inbound protocol stream client spx =
      (drafts ctx inbound protocol stream client spx).map Draft.text := by
  cases protocol with
  | vmess =>
    rw [lines, vmess_eq_map, drafts, List.map_map]
    rfl
  | vless | trojan =>
    rw [lines, uri_eq_map, drafts, List.map_map]
    rfl
  | shadowsocks =>
    rw [lines, shadowsocks_eq_map, drafts]
    cases shadowsocksCredential? inbound client with
    | none => rfl
    | some credential =>
      dsimp only
      rw [List.map_map]
      rfl

/-- No link is written as the empty text, which stands for a rendering without links. -/
theorem Draft.text_ne_empty (d : Draft) : d.text ≠ "" := by
  cases d with
  | uri parts => exact uri_text_ne_empty parts
  | vmess document => simp [text, vmessText]

theorem lines_ne_empty {ctx : LinkContext} {inbound : Inbound} {protocol : Protocol}
    {stream : Json} {client : Client} {spx : String} :
    ∀ l ∈ lines ctx inbound protocol stream client spx, l ≠ "" := by
  rw [lines_eq_drafts, List.forall_mem_map]
  exact fun d _ => d.text_ne_empty

/-- There is one endpoint for each external proxy, or one for the inbound if it has none. -/
theorem length_endpoints (ctx : LinkContext) (inbound : Inbound) (stream : Json) :
    (Endpoint.all ctx inbound stream).length =
      max 1 (ExternalProxy.listOfStream stream).length := by
  rw [Endpoint.all]
  cases ExternalProxy.listOfStream stream with
  | nil => rfl
  | cons p ps =>
    dsimp only
    rw [List.length_map, List.length_cons]
    omega

theorem length_drafts {protocol : Protocol} (h : protocol ≠ .shadowsocks) (ctx : LinkContext)
    (inbound : Inbound) (stream : Json) (client : Client) (spx : String) :
    (drafts ctx inbound protocol stream client spx).length =
      max 1 (ExternalProxy.listOfStream stream).length := by
  cases protocol with
  | vmess | vless | trojan => rw [drafts, List.length_map, length_endpoints]
  | shadowsocks => exact absurd rfl h

/-! ## One function of the spider path -/

theorem overwrite_imposeOnDocument {key : String} (tls : "tls" ≠ key) (forced : Option String)
    (out : ParamSet) (v : ParamValue) :
    (imposeOnDocument forced out).overwrite key v =
      imposeOnDocument forced (out.overwrite key v) := by
  cases forced with
  | none => rfl
  | some mode =>
    rw [imposeOnDocument, imposeOnDocument]
    split
    · rw [ParamSet.overwrite_removeTlsIdentity, ParamSet.overwrite_setText tls]
    · rw [ParamSet.overwrite_setText tls]

/-- A value that does not depend on the endpoint may as well be overwritten in the common set. -/
theorem overwrite_vmessDocument {key : String} (endpoint : key ∉ endpointKeys) (tls : "tls" ≠ key)
    (base : ParamSet) (e : Endpoint) (remark : String) (v : ParamValue) :
    (vmessDocument base e remark).overwrite key v =
      vmessDocument (base.overwrite key v) e remark := by
  simp only [endpointKeys, List.mem_cons, List.not_mem_nil, or_false, not_or] at endpoint
  obtain ⟨add, port, ps⟩ := endpoint
  rw [vmessDocument, vmessDocument, ParamSet.overwrite_setText (Ne.symm ps),
    overwrite_imposeOnDocument tls, ParamSet.overwrite_set (Ne.symm port),
    ParamSet.overwrite_setText (Ne.symm add)]

section Reality

variable {stream : Json} (reality : Security.modeOf stream .full = .reality)

include reality

theorem clientSecurity_withSpider (client : Client) (spx path : String) :
    (clientSecurity stream client spx).withSpider path = clientSecurity stream client path := by
  rw [clientSecurity, Security.withSpider_attachFlow, Security.withSpider_ofStream reality,
    clientSecurity]

theorem clientSecurity_spx (client : Client) (spx : String) :
    (clientSecurity stream client spx).spx = some spx := by
  rw [← clientSecurity_withSpider reality client spx spx]
  rfl

theorem overwrite_uriParams (client : Client) (spx path : String) (e : Endpoint) :
    (uriParams (uriBase stream (clientSecurity stream client spx))
        (clientSecurity stream client spx) e).overwrite "spx" (.text path) =
      uriParams (uriBase stream (clientSecurity stream client path))
        (clientSecurity stream client path) e := by
  have base : (uriBase stream (clientSecurity stream client spx)).overwrite "spx" (.text path) =
      uriBase stream (clientSecurity stream client path) := by
    rw [uriBase, Security.overwrite_writeQuery (clientSecurity_spx reality client spx),
      clientSecurity_withSpider reality, uriBase]
  have mode : effectiveMode (clientSecurity stream client spx) e =
      effectiveMode (clientSecurity stream client path) e := by
    rw [← clientSecurity_withSpider reality client spx path]
    rfl
  rw [uriParams, uriParams, mode, ← base]
  split
  · rw [ParamSet.overwrite_removeTlsIdentity, ParamSet.overwrite_setText (by decide)]
  · rw [ParamSet.overwrite_setText (by decide)]

theorem get?_spx_uriParams (client : Client) (spx : String) (e : Endpoint) :
    (uriParams (uriBase stream (clientSecurity stream client spx))
      (clientSecurity stream client spx) e).get? "spx" = some (.text spx) := by
  have base : (uriBase stream (clientSecurity stream client spx)).get? "spx" =
      some (.text spx) := by
    rw [uriBase, Security.writeQuery, ParamSet.get?_setText?_of_ne (by decide),
      Security.get?_spx_writeCommon (clientSecurity_spx reality client spx)]
  rw [uriParams]
  split
  · rw [ParamSet.get?_removeTlsIdentity (by decide), ParamSet.get?_setText_of_ne (by decide), base]
  · rw [ParamSet.get?_setText_of_ne (by decide), base]

theorem ofStream_spx (spx : String) : (Security.ofStream stream .full spx).spx = some spx := by
  rw [← Security.withSpider_ofStream reality spx spx]
  rfl

theorem overwrite_vmessParams (client : Client) (spx path : String) (e : Endpoint)
    (name : String) :
    (vmessParams stream client spx e name).overwrite "spx" (.text path) =
      vmessParams stream client path e name := by
  have base : (vmessBase stream client (Security.ofStream stream .full spx)).overwrite "spx"
      (.text path) = vmessBase stream client (Security.ofStream stream .full path) := by
    rw [vmessBase, fillDocument, ParamSet.overwrite_setText (by decide),
      ParamSet.overwrite_set (by decide), ParamSet.overwrite_setText (by decide),
      Security.overwrite_writeDocument (ofStream_spx reality spx),
      Security.withSpider_ofStream reality, vmessBase, fillDocument]
  rw [vmessParams, vmessParams, overwrite_vmessDocument (by decide) (by decide), base]

theorem get?_spx_vmessParams (client : Client) (spx : String) (e : Endpoint) (name : String) :
    (vmessParams stream client spx e name).get? "spx" = some (.text spx) := by
  rw [vmessParams, get?_vmessDocument_of_kept _ _ (by decide) (fun _ => by decide)
    (fun _ => by decide), vmessBase, fillDocument, ParamSet.get?_setText_of_ne (by decide),
    ParamSet.get?_set_of_ne (by decide), ParamSet.get?_setText_of_ne (by decide),
    Security.writeDocument, Security.get?_spx_writeCommon (ofStream_spx reality spx)]

variable {protocol : Protocol} (h : protocol ≠ .shadowsocks) (ctx : LinkContext)
  (inbound : Inbound) (client : Client) (spx : String)

include h

/-- **The links of a Reality inbound are one function of their spider path**: overwriting the path
in all of them gives the links that are made with the other path. -/
theorem drafts_withSpider (path : String) :
    (drafts ctx inbound protocol stream client spx).map (Draft.withSpider path) =
      drafts ctx inbound protocol stream client path := by
  cases protocol with
  | vmess =>
    rw [drafts, drafts, List.map_map]
    refine List.map_congr_left fun e _ => ?_
    exact congrArg Draft.vmess (overwrite_vmessParams reality client spx path e _)
  | vless | trojan =>
    rw [drafts, drafts, List.map_map]
    refine List.map_congr_left fun e _ => ?_
    exact congrArg (fun ps => Draft.uri ⟨_, _, e.address, e.port, ps, _⟩)
      (overwrite_uriParams reality client spx path e)
  | shadowsocks => exact absurd rfl h

/-- **Every link of a Reality inbound shows its spider path.** -/
theorem spider?_of_mem_drafts {d : Draft} (hd : d ∈ drafts ctx inbound protocol stream client spx) :
    d.spider? = some spx := by
  cases protocol with
  | vmess =>
    obtain ⟨e, -, rfl⟩ := List.mem_map.1 hd
    rw [Draft.spider?, read?_vmessParams, Option.bind_some, Json.text?, Json.get?,
      ParamSet.get?_members, get?_spx_vmessParams reality]
    rfl
  | vless | trojan =>
    obtain ⟨e, -, rfl⟩ := List.mem_map.1 hd
    rw [Draft.spider?, find?_params, params, get?_spx_uriParams reality]
    · rfl
    · exact h
  | shadowsocks => exact absurd rfl h

end Reality

end Link
end ProxyFeed
