import ProxyFeed.Proofs.Link.Branches

/-!
# What a link shows of its client

Of the record of a client, a link shows the name it goes by and a few fields that depend on the
protocol.  Here those fields are listed, and it is shown that a link can be read back as far as
they are concerned: two clients with the same e-mail have the same links exactly if the listed
fields agree.

## What is here

* `Link.shown` — the fields a link shows besides the e-mail.
* `Link.get?_flow_uriParams`, `Link.get?_id_vmessDocument`, … — where the fields stand in the
  parameters of a link.
* `Link.shown_eq_of_joined_eq` — equal links show equal fields.
* `Link.joined_eq_iff_shown_eq` — and the other way round, for clients of one e-mail.
-/

set_option autoImplicit false
namespace ProxyFeed

namespace Security

theorem ofStream_mode (stream : Json) (scope : SecurityScope) (spx : String) :
    (ofStream stream scope spx).mode = modeOf stream scope := by
  rw [ofStream]
  split
  · next h => rw [h]
  · next h =>
    rw [h]
    cases stream.get? "tlsSettings" <;> rfl
  · next h =>
    rw [h]
    cases stream.get? "realitySettings" <;> rfl

/-- Stream settings know of no flow. -/
theorem ofStream_flow (stream : Json) (scope : SecurityScope) (spx : String) :
    (ofStream stream scope spx).flow = none := by
  rw [ofStream]
  split
  · rfl
  · cases stream.get? "tlsSettings" <;> rfl
  · cases stream.get? "realitySettings" <;> rfl

end Security

namespace Link

theorem get?_flow_uriParams (stream : Json) (security : Security) (e : Endpoint) :
    (uriParams (uriBase stream security) security e).get? "flow" =
      security.flow.map ParamValue.text := by
  have base : (uriBase stream security).get? "flow" = security.flow.map ParamValue.text := by
    rw [uriBase, Security.get?_flow_writeQuery, Transport.get?_writeQuery (by decide),
      ParamSet.get?_setText_of_ne (by decide), ParamSet.get?_empty, Option.or_none]
  rw [uriParams]
  split
  · rw [ParamSet.get?_removeTlsIdentity (by decide), ParamSet.get?_setText_of_ne (by decide), base]
  · rw [ParamSet.get?_setText_of_ne (by decide), base]

theorem get?_imposeOnDocument {key : String} (htls : key ≠ "tls")
    (h : key ∉ ParamSet.tlsIdentityKeys) (forced : Option String) (out : ParamSet) :
    (imposeOnDocument forced out).get? key = out.get? key := by
  cases forced with
  | none => rfl
  | some mode =>
    rw [imposeOnDocument]
    split
    · rw [ParamSet.get?_removeTlsIdentity h, ParamSet.get?_setText_of_ne htls]
    · rw [ParamSet.get?_setText_of_ne htls]

theorem get?_id_vmessDocument (stream : Json) (client : Client) (security : Security)
    (e : Endpoint) (remark : String) :
    (vmessDocument (vmessBase stream client security) e remark).get? "id" =
      some (.text client.id) := by
  rw [vmessDocument, ParamSet.get?_setText_of_ne (by decide),
    get?_imposeOnDocument (by decide) (by decide), ParamSet.get?_set_of_ne (by decide),
    ParamSet.get?_setText_of_ne (by decide), vmessBase, fillDocument,
    ParamSet.get?_setText_of_ne (by decide), ParamSet.get?_set_of_ne (by decide),
    ParamSet.get?_setText_self]

theorem get?_scy_vmessDocument (stream : Json) (client : Client) (security : Security)
    (e : Endpoint) (remark : String) :
    (vmessDocument (vmessBase stream client security) e remark).get? "scy" =
      some (.text client.security) := by
  rw [vmessDocument, ParamSet.get?_setText_of_ne (by decide),
    get?_imposeOnDocument (by decide) (by decide), ParamSet.get?_set_of_ne (by decide),
    ParamSet.get?_setText_of_ne (by decide), vmessBase, fillDocument, ParamSet.get?_setText_self]

/-! ## The fields -/

/-- Do the links of stream settings carry a flow? -/
def carriesFlow (stream : Json) : Bool :=
  Security.modeOf stream .full = .reality && Network.ofStream stream = .tcp

/-- The flow of a client, if links carry it. -/
def shownFlow (stream : Json) (client : Client) : List String :=
  if carriesFlow stream then [client.flow] else []

/-- What a link shows of its client besides the e-mail. -/
def shown (inbound : Inbound) (protocol : Protocol) (stream : Json) (client : Client) :
    List String :=
  match protocol with
  | .vmess => [client.id, client.security]
  | .vless => client.id :: shownFlow stream client
  | .trojan => client.password :: shownFlow stream client
  | .shadowsocks =>
    match shadowsocksServer? inbound.settings with
    | none => []
    | some (method, password) => [shadowsocksSecret method password client.password]

theorem clientSecurity_flow (stream : Json) (client : Client) (spx : String) :
    (clientSecurity stream client spx).flow =
      if carriesFlow stream ∧ client.flow ≠ "" then some client.flow else none := by
  rw [clientSecurity, Security.attachFlow, Security.ofStream_mode]
  by_cases mode : Security.modeOf stream .full = .reality <;>
    by_cases network : Network.ofStream stream = .tcp <;>
    by_cases flow : client.flow = "" <;>
    simp [carriesFlow, mode, network, flow, Security.ofStream_flow]

theorem shownFlow_eq_iff (stream : Json) (c d : Client) (spx : String) :
    shownFlow stream c = shownFlow stream d ↔
      (clientSecurity stream c spx).flow = (clientSecurity stream d spx).flow := by
  rw [clientSecurity_flow, clientSecurity_flow, shownFlow, shownFlow]
  cases carriesFlow stream with
  | false => simp
  | true =>
    by_cases hc : c.flow = ""
    · by_cases hd : d.flow = ""
      · simp [hc, hd]
      · simp [hc, hd, Ne.symm hd]
    · by_cases hd : d.flow = ""
      · simp [hc, hd]
      · simp [hc, hd]

/-- The flow is all that the security fields take from the client. -/
theorem clientSecurity_eq_iff (stream : Json) (c d : Client) (spx : String) :
    clientSecurity stream c spx = clientSecurity stream d spx ↔
      (clientSecurity stream c spx).flow = (clientSecurity stream d spx).flow := by
  refine ⟨congrArg Security.flow, fun h => ?_⟩
  have own : ∀ client, clientSecurity stream client spx =
      { Security.ofStream stream .full spx with
        flow := (clientSecurity stream client spx).flow } := by
    intro client
    rw [clientSecurity, Security.attachFlow]
    split <;> rfl
  rw [own c, own d, h]

/-! ## Reading a link back

A link in URI form is cut at its first `@` and, behind the host and port, at its `#`; a vmess link
ends at the line break. -/

theorem not_mem_userinfo {c : Char} (kept : Percent.inUserinfo c = false)
    (escape : Percent.isEscapeChar c = false) (s : String) : c ∉ Percent.userinfo s :=
  Percent.not_mem_encode kept escape _

theorem userinfo_injective {s t : String} (h : Percent.userinfo s = Percent.userinfo t) :
    s = t := by
  have decoded := congrArg Percent.decode h
  rw [Percent.decode_userinfo, Percent.decode_userinfo] at decoded
  exact utf8_injective decoded

theorem base64_injective {s t : String} (h : base64 (utf8 s) = base64 (utf8 t)) : s = t := by
  have decoded := congrArg Base64.decode? (String.ofList_injective h)
  rw [Base64.decode?_encode, Base64.decode?_encode] at decoded
  exact utf8_injective (Option.some.inj decoded)

/-- Texts cut at the first occurrence of a character have one first part and one rest. -/
theorem cut_unique {sep : Char} {s t : List Char} :
    ∀ {a b : List Char}, sep ∉ a → sep ∉ b → a ++ sep :: s = b ++ sep :: t → a = b ∧ s = t
  | [], [], _, _, h => ⟨rfl, (List.cons.inj h).2⟩
  | [], c :: b, _, hb, h => by
    obtain ⟨rfl, -⟩ := List.cons.inj h
    exact absurd List.mem_cons_self hb
  | c :: a, [], ha, _, h => by
    obtain ⟨rfl, -⟩ := List.cons.inj h
    exact absurd List.mem_cons_self ha
  | c :: a, d :: b, ha, hb, h => by
    obtain ⟨rfl, tails⟩ := List.cons.inj h
    obtain ⟨rfl, rest⟩ := cut_unique (fun m => ha (List.mem_cons_of_mem _ m))
      (fun m => hb (List.mem_cons_of_mem _ m)) tails
    exact ⟨rfl, rest⟩

theorem not_mem_intercalate {c : Char} {sep : List Char} (hsep : c ∉ sep) :
    ∀ {parts : List (List Char)}, (∀ p ∈ parts, c ∉ p) → c ∉ sep.intercalate parts
  | [], _ => by simp
  | [p], h => by simpa using h p (by simp)
  | p :: q :: parts, h => by
    have ih := @not_mem_intercalate c sep hsep (q :: parts) fun r hr => h r (by simp [hr])
    rw [List.intercalate_cons_cons, List.mem_append, List.mem_append]
    rintro ((hp | hs) | hr)
    · exact h p (by simp) hp
    · exact hsep hs
    · exact ih hr

/-- A character that is neither kept nor part of an escape, and separates nothing, does not occur in
a query. -/
theorem not_mem_query {c : Char} (kept : Form.isKept c = false)
    (escape : Percent.isEscapeChar c = false) (separator : c ∉ ['+', '&', '=']) (s : ParamSet) :
    c ∉ s.query.toList := by
  simp only [List.mem_cons, List.not_mem_nil, or_false, not_or] at separator
  obtain ⟨plus, amp, eq⟩ := separator
  rw [ParamSet.query, String.toList_ofList, Form.encode]
  refine not_mem_intercalate (by simpa using amp) fun p hp => ?_
  obtain ⟨kv, -, rfl⟩ := List.mem_map.1 hp
  have text : ∀ v, c ∉ Form.encodeText v := Form.not_mem_encodeText kept escape plus
  simp [Form.encodePair, text, eq]

theorem newline_not_mem_base64 (bs : List UInt8) : '\n' ∉ Base64.encode bs := by
  have sextet : ∀ n < 64, Base64.sextet n ≠ '\n' := by decide
  fun_induction Base64.encode bs with
  | case1 a b c rest n ih =>
    have ha := a.toNat_lt
    have hb := b.toNat_lt
    have hc := c.toNat_lt
    have h1 := sextet (n / 262144) (by omega)
    have h2 := sextet (n / 4096 % 64) (by omega)
    have h3 := sextet (n / 64 % 64) (by omega)
    have h4 := sextet (n % 64) (by omega)
    simp [Ne.symm h1, Ne.symm h2, Ne.symm h3, Ne.symm h4, ih]
  | case2 a b n =>
    have ha := a.toNat_lt
    have hb := b.toNat_lt
    have h1 := sextet (n / 4096) (by omega)
    have h2 := sextet (n / 64 % 64) (by omega)
    have h3 := sextet (n % 64) (by omega)
    simp [Ne.symm h1, Ne.symm h2, Ne.symm h3]
  | case3 a n =>
    have ha := a.toNat_lt
    have h1 := sextet (n / 64) (by omega)
    have h2 := sextet (n % 64) (by omega)
    simp [Ne.symm h1, Ne.symm h2]
  | case4 => simp

theorem newline_not_mem_vmessText (document : ParamSet) : '\n' ∉ (vmessText document).toList := by
  have scheme : '\n' ∉ "vmess://".toList := by simp
  have body : '\n' ∉ (base64 (utf8 document.document)).toList := by
    rw [base64, String.toList_ofList]
    exact newline_not_mem_base64 _
  rw [vmessText, String.toList_append, List.mem_append]
  exact not_or.2 ⟨scheme, body⟩

/-- **The credential and the parameters of a URI can be read off its text**, whatever follows. -/
theorem uri_eq_of_text_append_eq {scheme address remark credential credential' remark' : String}
    {port : Int64} {params params' : ParamSet} {rest rest' : String}
    (h : Uri.text ⟨scheme, credential, address, port, params, remark⟩ ++ rest =
      Uri.text ⟨scheme, credential', address, port, params', remark'⟩ ++ rest') :
    credential = credential' ∧ params.query = params'.query := by
  have chars := congrArg String.toList h
  have at_ : "@".toList = ['@'] := rfl
  have hash : "#".toList = ['#'] := rfl
  simp only [Uri.text, String.toList_append, String.toList_ofList, List.append_assoc,
    List.append_cancel_left_eq, at_, hash, List.cons_append, List.nil_append] at chars
  have at_free : ∀ s, '@' ∉ Percent.userinfo s := not_mem_userinfo (by decide) (by decide)
  have hash_free : ∀ s : ParamSet, '#' ∉ s.query.toList :=
    not_mem_query (by decide) (by decide) (by decide)
  obtain ⟨info, after⟩ := cut_unique (at_free _) (at_free _) chars
  rw [List.append_cancel_left_eq, List.append_cancel_left_eq, List.append_cancel_left_eq,
    List.append_cancel_left_eq] at after
  obtain ⟨query, -⟩ := cut_unique (hash_free _) (hash_free _) after
  exact ⟨userinfo_injective info, String.toList_inj.1 query⟩

/-! ## Equal links -/

theorem exists_intercalate_eq (a : String) (as : List String) :
    ∃ rest, "\n".intercalate (a :: as) = a ++ rest := by
  cases as with
  | nil => exact ⟨"", by rw [String.intercalate_singleton, String.append_empty]⟩
  | cons b bs => exact ⟨_, by rw [String.intercalate_cons_cons, String.append_assoc]⟩

theorem uri_text_ne_empty (u : Uri) : u.text ≠ "" := by
  intro h
  have chars := congrArg String.toList h
  simp [Uri.text] at chars

theorem joined_eq_empty_iff {ls : List String} (h : ∀ l ∈ ls, l ≠ "") :
    "\n".intercalate ls = "" ↔ ls = [] := by
  cases ls with
  | nil => simp
  | cons l ls =>
    obtain ⟨rest, e⟩ := exists_intercalate_eq l ls
    have first := h l (by simp)
    simp [e, first]

theorem toInt_port_ofProxy (p : ExternalProxy) :
    (Endpoint.ofProxy p).port.toInt = p.port.toNat := by
  have small := p.port.toNat_lt
  exact Int64.toInt_ofNat_of_lt (by omega)

theorem endpoints_of_proxies {stream : Json} (h : ExternalProxy.listOfStream stream ≠ [])
    (ctx : LinkContext) (inbound : Inbound) : Endpoint.all ctx inbound stream =
      (ExternalProxy.listOfStream stream).map Endpoint.ofProxy := by
  rw [Endpoint.all]
  split
  · next none => exact absurd none h
  · rfl

theorem endpoints_of_alone {stream : Json} (h : ExternalProxy.listOfStream stream = [])
    (ctx : LinkContext) (inbound : Inbound) :
    Endpoint.all ctx inbound stream = [Endpoint.direct ctx inbound] := by
  rw [Endpoint.all, h]

theorem exists_endpoint (ctx : LinkContext) (inbound : Inbound) (stream : Json) :
    ∃ e es, Endpoint.all ctx inbound stream = e :: es := by
  rw [Endpoint.all]
  cases ExternalProxy.listOfStream stream with
  | nil => exact ⟨_, [], rfl⟩
  | cons p ps => exact ⟨_, _, List.map_cons⟩

/-- The lines of all endpoints are found again by cutting at the line breaks. -/
theorem splitAt_joined {ctx : LinkContext} {inbound : Inbound} {stream : Json}
    {line : Endpoint → String}
    (unbroken : ∀ e ∈ Endpoint.all ctx inbound stream, '\n' ∉ (line e).toList) :
    Form.splitAt '\n' ("\n".intercalate ((Endpoint.all ctx inbound stream).map line)).toList =
      (Endpoint.all ctx inbound stream).map fun e => (line e).toList := by
  obtain ⟨e, es, all_eq⟩ := exists_endpoint ctx inbound stream
  rw [String.toList_intercalate, List.map_map]
  refine Form.splitAt_intercalate (by simp [all_eq]) fun p hp => ?_
  obtain ⟨e, he, rfl⟩ := List.mem_map.1 hp
  exact unbroken e he

/-- Equal links in URI form have the same credential, and the same query for some endpoint. -/
theorem uri_eq_of_joined_eq {ctx : LinkContext} {inbound : Inbound} {stream : Json}
    {scheme credential credential' : String} {params params' : Endpoint → ParamSet}
    {remark remark' : Endpoint → String}
    (h : "\n".intercalate ((Endpoint.all ctx inbound stream).map fun e =>
        Uri.text ⟨scheme, credential, e.address, e.port, params e, remark e⟩) =
      "\n".intercalate ((Endpoint.all ctx inbound stream).map fun e =>
        Uri.text ⟨scheme, credential', e.address, e.port, params' e, remark' e⟩)) :
    credential = credential' ∧ ∃ e, (params e).query = (params' e).query := by
  obtain ⟨e, es, all_eq⟩ := exists_endpoint ctx inbound stream
  rw [all_eq, List.map_cons, List.map_cons] at h
  obtain ⟨rest, first⟩ := exists_intercalate_eq
    (Uri.text ⟨scheme, credential, e.address, e.port, params e, remark e⟩) (es.map fun e =>
      Uri.text ⟨scheme, credential, e.address, e.port, params e, remark e⟩)
  obtain ⟨rest', first'⟩ := exists_intercalate_eq
    (Uri.text ⟨scheme, credential', e.address, e.port, params' e, remark' e⟩) (es.map fun e =>
      Uri.text ⟨scheme, credential', e.address, e.port, params' e, remark' e⟩)
  rw [first, first'] at h
  obtain ⟨same, query⟩ := uri_eq_of_text_append_eq h
  exact ⟨same, e, query⟩

/-- Equal vmess links have the same document for some endpoint. -/
theorem document_eq_of_joined_eq {ctx : LinkContext} {inbound : Inbound} {stream : Json}
    {out out' : Endpoint → ParamSet}
    (h : "\n".intercalate ((Endpoint.all ctx inbound stream).map fun e => vmessText (out e)) =
      "\n".intercalate ((Endpoint.all ctx inbound stream).map fun e => vmessText (out' e))) :
    ∃ e, (out e).document = (out' e).document := by
  obtain ⟨e, es, all_eq⟩ := exists_endpoint ctx inbound stream
  have texts := congrArg (fun s => Form.splitAt '\n' s.toList) h
  simp only [splitAt_joined fun _ _ => newline_not_mem_vmessText _] at texts
  rw [all_eq, List.map_cons, List.map_cons] at texts
  have first := String.toList_inj.1 (List.cons.inj texts).1
  rw [vmessText, vmessText, String.append_right_inj] at first
  exact ⟨e, base64_injective first⟩

/-- The flow shows in a query. -/
theorem shownFlow_eq_of_query_eq {stream : Json} {c d : Client} {spx : String} {e : Endpoint}
    (h : (uriParams (uriBase stream (clientSecurity stream c spx))
        (clientSecurity stream c spx) e).query =
      (uriParams (uriBase stream (clientSecurity stream d spx))
        (clientSecurity stream d spx) e).query) :
    shownFlow stream c = shownFlow stream d := by
  have flow := ParamSet.get?_eq_of_query_eq h "flow"
  rw [get?_flow_uriParams, get?_flow_uriParams, Option.map_map, Option.map_map] at flow
  rw [shownFlow_eq_iff stream c d spx]
  exact Option.map_injective (f := ParamValue.queryText ∘ ParamValue.text) (fun _ _ => id) flow

/-- Equal links of vless or trojan have the same credential and the same flow. -/
theorem credential_eq_of_joined_eq {ctx : LinkContext} {inbound : Inbound} {stream : Json}
    {c d : Client} {spx scheme credential credential' : String}
    (h : "\n".intercalate (uri ctx inbound stream c spx scheme credential) =
      "\n".intercalate (uri ctx inbound stream d spx scheme credential')) :
    credential = credential' ∧ shownFlow stream c = shownFlow stream d := by
  rw [uri_eq_map, uri_eq_map] at h
  obtain ⟨same, e, query⟩ := uri_eq_of_joined_eq h
  exact ⟨same, shownFlow_eq_of_query_eq query⟩

/-- Links of vless or trojan take the e-mail and the flow from the client. -/
theorem uri_congr {c d : Client} (email : c.email = d.email) {stream : Json}
    (flow : shownFlow stream c = shownFlow stream d) (ctx : LinkContext) (inbound : Inbound)
    (spx scheme credential : String) :
    uri ctx inbound stream c spx scheme credential =
      uri ctx inbound stream d spx scheme credential := by
  have security : clientSecurity stream c spx = clientSecurity stream d spx :=
    (clientSecurity_eq_iff stream c d spx).2 ((shownFlow_eq_iff stream c d spx).1 flow)
  rw [uri_eq_map, uri_eq_map]
  simp only [security, remark, name, email]

theorem shadowsocksCredential?_eq (inbound : Inbound) (client : Client) :
    shadowsocksCredential? inbound client = (shadowsocksServer? inbound.settings).map fun server =>
      base64 (utf8 (server.1 ++ ":" ++
        shadowsocksSecret server.1 server.2 client.password)) := by
  rw [shadowsocksCredential?]
  cases shadowsocksServer? inbound.settings <;> rfl

/-- **Equal links show equal fields**: nothing a link is to show of its client is lost in its
text. -/
theorem shown_eq_of_joined_eq {ctx : LinkContext} {inbound : Inbound} {protocol : Protocol}
    {stream : Json} {c d : Client} {spx : String}
    (h : "\n".intercalate (lines ctx inbound protocol stream c spx) =
      "\n".intercalate (lines ctx inbound protocol stream d spx)) :
    shown inbound protocol stream c = shown inbound protocol stream d := by
  cases protocol with
  | vmess =>
    rw [lines, lines, vmess_eq_map, vmess_eq_map] at h
    obtain ⟨e, same⟩ := document_eq_of_joined_eq h
    have id_eq := ParamSet.get?_eq_of_document_eq same "id"
    have scy_eq := ParamSet.get?_eq_of_document_eq same "scy"
    rw [get?_id_vmessDocument, get?_id_vmessDocument] at id_eq
    rw [get?_scy_vmessDocument, get?_scy_vmessDocument] at scy_eq
    rw [shown, shown, ParamValue.text.inj (Option.some.inj id_eq),
      ParamValue.text.inj (Option.some.inj scy_eq)]
  | vless | trojan =>
    obtain ⟨same, flow⟩ := credential_eq_of_joined_eq h
    rw [shown, shown, same, flow]
  | shadowsocks =>
    rw [shown, shown]
    rw [lines, lines, shadowsocks_eq_map, shadowsocks_eq_map] at h
    simp only [shadowsocksCredential?_eq] at h
    cases server : shadowsocksServer? inbound.settings with
    | none => rfl
    | some s =>
      rw [server] at h
      obtain ⟨credential, -⟩ := uri_eq_of_joined_eq h
      have secret := base64_injective credential
      rw [String.append_right_inj] at secret
      exact congrArg (fun t => [t]) secret

/-- **Clients of one e-mail have the same links exactly if the fields that links show agree.** -/
theorem joined_eq_iff_shown_eq {ctx : LinkContext} {inbound : Inbound} {protocol : Protocol}
    {stream : Json} {c d : Client} (email : c.email = d.email) (spx : String) :
    "\n".intercalate (lines ctx inbound protocol stream c spx) =
        "\n".intercalate (lines ctx inbound protocol stream d spx) ↔
      shown inbound protocol stream c = shown inbound protocol stream d := by
  refine ⟨shown_eq_of_joined_eq, fun h => congrArg ("\n".intercalate) ?_⟩
  cases protocol with
  | vmess =>
    rw [shown, shown] at h
    obtain ⟨id_eq, rest⟩ := List.cons.inj h
    obtain ⟨scy_eq, -⟩ := List.cons.inj rest
    rw [lines, lines, vmess_eq_map, vmess_eq_map]
    simp only [vmessBase, fillDocument, remark, name, email, id_eq, scy_eq]
  | vless | trojan =>
    rw [shown, shown] at h
    obtain ⟨same, flow⟩ := List.cons.inj h
    rw [lines, lines, same]
    exact uri_congr email flow ctx inbound spx _ _
  | shadowsocks =>
    rw [shown, shown] at h
    rw [lines, lines, shadowsocks_eq_map, shadowsocks_eq_map]
    simp only [shadowsocksCredential?_eq]
    cases server : shadowsocksServer? inbound.settings with
    | none => rfl
    | some s =>
      rw [server] at h
      have secret := (List.cons.inj h).1
      simp only [Option.map_some, secret, remark, name, email]

end Link
end ProxyFeed
