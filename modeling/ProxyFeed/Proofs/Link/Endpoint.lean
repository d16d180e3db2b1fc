import ProxyFeed.Proofs.Link.Draft

/-!
# The link of one endpoint

The links of a client are made one by one, each from its endpoint alone: what one endpoint imposes
does not reach the link of another.  So a statement about all links of a client is a statement about
the link of one endpoint, and that is where it is proved.

## What is here

* `Link.linkedEndpoints` — the endpoints that a client gets a link for.
* `Link.draftAt` — the link for one of them; `Link.lines_eq_map` says that there is nothing else to
  the links of a client.
* `Link.draftAt_eq_uri` — the link for an endpoint in URI form, part by part.
* `Link.draftAt_congr` and `Link.draftAt_streamSettings` — the link for an endpoint is read from the
  layers alone.
* `Link.rendered` — the links that `Link.generate` joins, one by one.
* `Link.generate_of_sameLayers` — stream settings that read alike have the same links.
-/

set_option autoImplicit false
namespace ProxyFeed
namespace Link

/-- The endpoints that a client gets a link for: all of them, unless the settings of a shadowsocks
inbound lack what a credential is made of. -/
def linkedEndpoints (ctx : LinkContext) (inbound : Inbound) (protocol : Protocol) (stream : Json) :
    List Endpoint :=
  if protocol = .shadowsocks ∧ shadowsocksServer? inbound.settings = none then []
  else Endpoint.all ctx inbound stream

/-- The link of a client for an endpoint. -/
def draftAt (ctx : LinkContext) (inbound : Inbound) (protocol : Protocol) (stream : Json)
    (client : Client) (spx : String) (e : Endpoint) : Draft :=
  let uri (scheme credential : String) : Draft := .uri ⟨scheme, credential, e.address, e.port,
    params protocol stream client spx e, remark ctx inbound client e⟩
  match protocol with
  | .vmess => .vmess (vmessParams stream client spx e (remark ctx inbound client e))
  | .vless => uri "vless" client.id
  | .trojan => uri "trojan" client.password
  | .shadowsocks => uri "ss" ((shadowsocksCredential? inbound client).getD "")

/-- What a link in URI form shows of its client. -/
def credential (inbound : Inbound) (client : Client) : Protocol → String
  | .vmess => ""
  | .vless => client.id
  | .trojan => client.password
  | .shadowsocks => (shadowsocksCredential? inbound client).getD ""

theorem draftAt_eq_uri {inbound : Inbound} {protocol : Protocol} {stream : Json} {scheme : String}
    (uri : uriScheme? protocol = some scheme) (ctx : LinkContext) (client : Client) (spx : String)
    (e : Endpoint) : draftAt ctx inbound protocol stream client spx e =
      .uri ⟨scheme, credential inbound client protocol, e.address, e.port,
        params protocol stream client spx e, remark ctx inbound client e⟩ := by
  cases protocol with
  | vmess => cases uri
  | vless | trojan | shadowsocks =>
    obtain rfl := Option.some.inj uri
    rfl

theorem exists_uriScheme {protocol : Protocol} (h : protocol ≠ .vmess) :
    ∃ scheme, uriScheme? protocol = some scheme := by
  cases protocol with
  | vmess => exact absurd rfl h
  | vless | trojan | shadowsocks => exact ⟨_, rfl⟩

variable (ctx : LinkContext) (inbound : Inbound) (protocol : Protocol) (stream : Json)
  (client : Client) (spx : String)

theorem drafts_eq_map : drafts ctx inbound protocol stream client spx =
    (linkedEndpoints ctx inbound protocol stream).map
      (draftAt ctx inbound protocol stream client spx) := by
  cases protocol with
  | vmess | vless | trojan =>
    rw [linkedEndpoints, if_neg (by simp), drafts]
    rfl
  | shadowsocks =>
    rw [drafts, linkedEndpoints, shadowsocksCredential?_eq]
    cases server : shadowsocksServer? inbound.settings with
    | none => rfl
    | some server =>
      rw [if_neg (by simp)]
      refine List.map_congr_left fun e _ => ?_
      rw [draftAt, shadowsocksCredential?_eq, server]
      rfl

theorem linkedEndpoints_of_server
    (server : protocol = .shadowsocks → (shadowsocksServer? inbound.settings).isSome) :
    linkedEndpoints ctx inbound protocol stream = Endpoint.all ctx inbound stream := by
  refine if_neg ?_
  rintro ⟨shadowsocks, incomplete⟩
  simpa [incomplete] using server shadowsocks

/-- **The links of a client, endpoint by endpoint.** -/
theorem lines_eq_map : lines ctx inbound protocol stream client spx =
    (linkedEndpoints ctx inbound protocol stream).map fun e =>
      (draftAt ctx inbound protocol stream client spx e).text := by
  rw [lines_eq_drafts, drafts_eq_map, List.map_map]
  rfl

/-! ## Settings that read alike -/

section SameLayers

variable {v w : Json}

theorem clientSecurity_congr (same : SameLayers .full v w) (client : Client) (spx : String) :
    clientSecurity v client spx = clientSecurity w client spx := by
  rw [clientSecurity, clientSecurity, same.network, same.security]

theorem params_congr {protocol : Protocol} (same : SameLayers (Link.scope protocol) v w)
    (client : Client) (spx : String) (e : Endpoint) :
    params protocol v client spx e = params protocol w client spx e := by
  cases protocol with
  | vmess | vless | trojan =>
    show uriParams (uriBase v (clientSecurity v client spx)) (clientSecurity v client spx) e = _
    rw [clientSecurity_congr same, uriBase_congr same]
    rfl
  | shadowsocks =>
    have security : Security.ofStream v .tlsOnly spx = Security.ofStream w .tlsOnly spx :=
      same.security spx
    rw [params, params, security, uriBase_congr same]

/-- **The link for an endpoint is read from the layers alone.** -/
theorem draftAt_congr {protocol : Protocol} (same : SameLayers (Link.scope protocol) v w)
    (ctx : LinkContext) (inbound : Inbound) (client : Client) (spx : String) (e : Endpoint) :
    draftAt ctx inbound protocol v client spx e = draftAt ctx inbound protocol w client spx e := by
  cases protocol with
  | vmess =>
    have security : Security.ofStream v .full spx = Security.ofStream w .full spx :=
      same.security spx
    rw [draftAt, draftAt, vmessParams, vmessParams, security, vmessBase_congr same]
  | vless | trojan | shadowsocks => rw [draftAt, draftAt, params_congr same]

end SameLayers

/-- **A link does not show the text that stream settings were read from.** -/
theorem draftAt_streamSettings (ctx : LinkContext) (inbound : Inbound) (text : String)
    (protocol : Protocol) (stream : Json) (client : Client) (spx : String) (e : Endpoint) :
    draftAt ctx { inbound with streamSettings := text } protocol stream client spx e =
      draftAt ctx inbound protocol stream client spx e := by
  cases protocol <;> rfl

/-- Stream settings that read alike, with the same external proxies, have links for the same
endpoints. -/
theorem linkedEndpoints_congr {v w : Json}
    (proxies : ExternalProxy.listOfStream v = ExternalProxy.listOfStream w) (ctx : LinkContext)
    (inbound : Inbound) (text : String) (protocol : Protocol) :
    linkedEndpoints ctx { inbound with streamSettings := text } protocol v =
      linkedEndpoints ctx inbound protocol w := by
  rw [linkedEndpoints, linkedEndpoints, Endpoint.all, Endpoint.all, proxies]
  rfl

theorem lines_congr {v w : Json} {protocol : Protocol}
    (same : SameLayers (Link.scope protocol) v w)
    (proxies : ExternalProxy.listOfStream v = ExternalProxy.listOfStream w) (ctx : LinkContext)
    (inbound : Inbound) (text : String) (client : Client) (spx : String) :
    lines ctx { inbound with streamSettings := text } protocol v client spx =
      lines ctx inbound protocol w client spx := by
  rw [lines_eq_map, lines_eq_map, linkedEndpoints_congr proxies]
  refine List.map_congr_left fun e _ => ?_
  rw [draftAt_streamSettings, draftAt_congr same]

/-! ## One by one -/

section Rendered

variable {ρ : Type} [SpiderSource ρ]

/-- The links of the first client with an e-mail, one by one; none if there is nothing to render. -/
def rendered (ctx : LinkContext) (inbound : Inbound) (email : String) (clients : List Client)
    (source : ρ) : List String × ρ :=
  match inbound.protocol?, Json.parse? inbound.streamSettings, clients.find? (·.email = email) with
  | some protocol, some stream, some client =>
    let (spx, source) := drawSpider stream (scope protocol) source
    (lines ctx inbound protocol stream client spx, source)
  | _, _, _ => ([], source)

/-- **Rendering joins the links.** -/
theorem generate_eq_rendered (email : String) (clients : List Client) (source : ρ) :
    generate ctx inbound email clients source =
      ("\n".intercalate (rendered ctx inbound email clients source).1,
        (rendered ctx inbound email clients source).2) := by
  rw [generate, rendered]
  cases inbound.protocol? with
  | none => rfl
  | some protocol =>
    cases Json.parse? inbound.streamSettings with
    | none => rfl
    | some stream => cases clients.find? (·.email = email) <;> rfl

variable {inbound protocol stream client} {email : String} {clients : List Client}

theorem rendered_of_found (spoken : inbound.protocol? = some protocol)
    (parsed : Json.parse? inbound.streamSettings = some stream)
    (found : clients.find? (·.email = email) = some client) (source : ρ) :
    rendered ctx inbound email clients source =
      (lines ctx inbound protocol stream client (drawSpider stream (scope protocol) source).1,
        (drawSpider stream (scope protocol) source).2) := by
  simp only [rendered, spoken, parsed, found]

theorem rendered_of_missing
    (missing : inbound.protocol? = none ∨ clients.find? (·.email = email) = none) (source : ρ) :
    rendered ctx inbound email clients source = ([], source) := by
  rw [rendered]
  split
  · next spoken _ found =>
    rcases missing with none_spoken | none_found
    · rw [none_spoken] at spoken
      cases spoken
    · rw [none_found] at found
      cases found
  · rfl

/-- **Stream settings that read alike, with the same external proxies, have the same links.** -/
theorem generate_of_sameLayers {text : String} {other : Json}
    (parsed : Json.parse? inbound.streamSettings = some stream)
    (parsed_other : Json.parse? text = some other)
    (same : ∀ protocol, inbound.protocol? = some protocol →
      SameLayers (Link.scope protocol) other stream ∧
        ExternalProxy.listOfStream other = ExternalProxy.listOfStream stream)
    (email : String) (clients : List Client) (source : ρ) :
    generate ctx { inbound with streamSettings := text } email clients source =
      generate ctx inbound email clients source := by
  rw [generate_eq_rendered, generate_eq_rendered]
  by_cases missing : inbound.protocol? = none ∨ clients.find? (·.email = email) = none
  · have missing_other : { inbound with streamSettings := text }.protocol? = none ∨
        clients.find? (·.email = email) = none := missing
    rw [rendered_of_missing ctx missing, rendered_of_missing ctx missing_other]
  · obtain ⟨spoken, found⟩ := not_or.1 missing
    obtain ⟨protocol, spoken⟩ := Option.ne_none_iff_exists'.1 spoken
    obtain ⟨client, found⟩ := Option.ne_none_iff_exists'.1 found
    have spoken_other : { inbound with streamSettings := text }.protocol? = some protocol := spoken
    obtain ⟨layers, proxies⟩ := same protocol spoken
    rw [rendered_of_found ctx spoken parsed found,
      rendered_of_found ctx spoken_other parsed_other found, drawSpider_congr layers,
      lines_congr layers proxies]

end Rendered

end Link
end ProxyFeed
