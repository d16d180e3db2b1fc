import ProxyFeed.Proofs.Clash.Freshness
import ProxyFeed.Proofs.Link.Endpoint

/-!
# Swapping the placeholder back

A link is sent to the converter with a placeholder port.  In the text that comes back every
occurrence of the placeholder gives way to the real port, wherever it stands: the port of the link
is restored, and digits of a credential, a path or a name that happen to be those of the placeholder
are changed along with it.

## What is here

* `Uri.front` and `Uri.back` — the text of a link on both sides of its port.
* `Link.lines_of_alone` and `Link.generate_of_alone` — without external proxies, a client has one
  link, and the port of the request stands in one place of it.
* `Clash.restorePort_wrapped` — what becomes of a link in a text around it.
* `Clash.answer_wrapped` — the answer for such a link, and when it is the one with the real port.
-/

set_option autoImplicit false
namespace ProxyFeed

/-! ## Both sides of a port -/

namespace Uri

/-- The text of a link up to its port. -/
def front (u : Uri) : String :=
  u.scheme ++ "://" ++ String.ofList (Percent.userinfo u.credential) ++ "@" ++ host u.address ++ ":"

/-- The text of a link after its port. -/
def back (u : Uri) : String :=
  "?" ++ u.params.query ++ "#" ++ String.ofList (Percent.fragment u.remark)

/-- A link with another port. -/
def withPort (u : Uri) (port : Int64) : Uri := { u with port }

theorem text_withPort (u : Uri) (port : Int64) :
    (u.withPort port).text = u.front ++ toString port.toInt ++ u.back := by
  rw [text, front, back]
  simp only [String.append_assoc]
  rfl

end Uri

namespace Link

/-- The link of a client for the inbound itself. -/
def directUri (ctx : LinkContext) (inbound : Inbound) (protocol : Protocol) (scheme : String)
    (stream : Json) (client : Client) (spx : String) : Uri :=
  let e := Endpoint.direct ctx inbound
  ⟨scheme, credential inbound client protocol, e.address, e.port,
    params protocol stream client spx e, remark ctx inbound client e⟩

variable {inbound : Inbound} {protocol : Protocol} {stream : Json} {scheme : String}
  (uri : uriScheme? protocol = some scheme)

include uri

/-- **Without external proxies, a client has one link**, and the port of the request stands in one
place of it. -/
theorem lines_of_alone
    (server : protocol = .shadowsocks → (shadowsocksServer? inbound.settings).isSome)
    (alone : ExternalProxy.listOfStream stream = []) (ctx : LinkContext) (client : Client)
    (spx : String) (port : Option UInt16) :
    lines { ctx with port } inbound protocol stream client spx =
      [((directUri ctx inbound protocol scheme stream client spx).withPort
        ({ ctx with port }.portFor inbound)).text] := by
  have linked : linkedEndpoints { ctx with port } inbound protocol stream =
      [Endpoint.direct { ctx with port } inbound] := by
    rw [linkedEndpoints_of_server _ _ _ _ server, endpoints_of_alone alone]
  have same : params protocol stream client spx (Endpoint.direct { ctx with port } inbound) =
      params protocol stream client spx (Endpoint.direct ctx inbound) := by
    cases protocol <;> rfl
  rw [lines_eq_map, linked, List.map_singleton, draftAt_eq_uri uri, same]
  rfl

theorem generate_of_alone {ρ : Type} [SpiderSource ρ] {email : String} {clients : List Client}
    {client : Client} (spoken : inbound.protocol? = some protocol)
    (parsed : Json.parse? inbound.streamSettings = some stream)
    (found : clients.find? (·.email = email) = some client)
    (server : protocol = .shadowsocks → (shadowsocksServer? inbound.settings).isSome)
    (alone : ExternalProxy.listOfStream stream = []) (ctx : LinkContext) (source : ρ)
    (port : Option UInt16) :
    (generate { ctx with port } inbound email clients source).1 =
      ((directUri ctx inbound protocol scheme stream client
        (drawSpider stream (scope protocol) source).1).withPort
          ({ ctx with port }.portFor inbound)).text := by
  rw [generate_eq_rendered, rendered_of_found _ spoken parsed found,
    lines_of_alone uri server alone, String.intercalate_singleton]

end Link

namespace Clash

/-! ## Placeholders in a text -/

section Wrapped

variable (options : ClashOptions) (port : Int64)

/-- The digits of the placeholder. -/
def placeholder (options : ClashOptions) : String := toString options.hiddenPort.toNat

theorem isDigit_of_mem_placeholder {c : Char} (h : c ∈ (placeholder options).toList) :
    NumberText.isDigit c = true := by
  rw [placeholder, Nat.toString_eq_ofList_toDigits, String.toList_ofList] at h
  exact NumberText.isDigit_of_mem_toDigits h

theorem not_mem_placeholder {c : Char} (other : NumberText.isDigit c = false) :
    c ∉ (placeholder options).toList := by
  intro h
  rw [isDigit_of_mem_placeholder options h] at other
  cases other

theorem placeholder_ne_nil : (placeholder options).toList ≠ [] := by
  obtain ⟨d, ds, digits, -⟩ := NumberText.exists_toDigits_eq_cons options.hiddenPort.toNat
  rw [placeholder, Nat.toString_eq_ofList_toDigits, String.toList_ofList, digits]
  exact List.cons_ne_nil d ds

theorem toString_hiddenPort :
    toString (Int64.ofNat options.hiddenPort.toNat).toInt = placeholder options := by
  have small : options.hiddenPort.toNat < 2 ^ 63 :=
    Nat.lt_of_lt_of_le options.hiddenPort.toNat_lt (by decide)
  rw [Int64.toInt_ofNat_of_lt small]
  rfl

/-- A port that looks like the placeholder is the placeholder. -/
theorem toString_eq_placeholder_iff :
    toString port.toInt = placeholder options ↔ port = Int64.ofNat options.hiddenPort.toNat := by
  rw [← toString_hiddenPort]
  refine ⟨Json.toString_toInt_injective, ?_⟩
  rintro rfl
  rfl

/-! ## A link in a text -/

/-- A text that does not begin with a digit. -/
def StartsApart (text : String) : Prop :=
  ∀ c ∈ text.toList.head?, NumberText.isDigit c = false

theorem startsApart_of_cons {text : String} {c : Char} {cs : List Char}
    (shape : text.toList = c :: cs) (other : NumberText.isDigit c = false) : StartsApart text := by
  intro d hd
  rw [shape] at hd
  obtain rfl := Option.some.inj hd
  exact other

theorem StartsApart.append {front back : String} (h : StartsApart front) (h' : StartsApart back) :
    StartsApart (front ++ back) := by
  intro c hc
  rw [String.toList_append, List.head?_append] at hc
  rcases Option.or_eq_some_iff.1 hc with first | ⟨-, first⟩
  · exact h c first
  · exact h' c first

theorem toList_restorePort (text : String) : (restorePort options port text).toList =
    Replace.all (placeholder options).toList (toString port.toInt).toList text.toList := by
  rw [restorePort, replaceAll, String.toList_ofList]
  rfl

theorem restorePort_eq_self {text : String} (free : showsPlaceholder options text = false) :
    restorePort options port text = text := by
  rw [← String.toList_inj, toList_restorePort]
  exact Replace.all_eq_self free _

theorem restorePort_placeholder :
    restorePort options port (placeholder options) = toString port.toInt := by
  rw [← String.toList_inj, toList_restorePort, Replace.all_pattern (placeholder_ne_nil options)]

/-- No placeholder extends into a text that does not begin with a digit. -/
theorem restorePort_append (front : String) {back : String} (apart : StartsApart back) :
    restorePort options port (front ++ back) =
      restorePort options port front ++ restorePort options port back := by
  rw [← String.toList_inj, String.toList_append]
  simp only [toList_restorePort, String.toList_append]
  exact Replace.all_append_of_head (placeholder_ne_nil options) _
    (fun c hc => not_mem_placeholder options (apart c hc)) _

/-- No placeholder extends over a colon. -/
theorem restorePort_append_colon (front back : String) :
    restorePort options port (front ++ ":" ++ back) =
      restorePort options port (front ++ ":") ++ restorePort options port back := by
  have colon := not_mem_placeholder options (c := ':') (by decide)
  rw [← String.toList_inj, String.toList_append]
  simp only [toList_restorePort, String.toList_append]
  exact Replace.all_append_of_last colon (placeholder_ne_nil options) _ _ _

/-- **What becomes of a link in a text around it**: its port is restored, the text around it stays,
and the two sides of the link are searched for the placeholder as well. -/
theorem restorePort_wrapped {u : Uri} (scheme : StartsApart u.scheme) {pre post : String}
    (before : showsPlaceholder options pre = false)
    (behind : showsPlaceholder options post = false) (apart : StartsApart post) :
    restorePort options port (pre ++ (u.front ++ placeholder options ++ u.back) ++ post) =
      pre ++ (restorePort options port u.front ++ toString port.toInt ++
        restorePort options port u.back) ++ post := by
  have front_apart (rest : String) : StartsApart (u.front ++ rest) := by
    rw [Uri.front]
    simp only [String.append_assoc]
    exact scheme.append (startsApart_of_cons (c := ':') (String.toList_append ..) (by decide))
  have back_apart (rest : String) : StartsApart (u.back ++ rest) := by
    rw [Uri.back]
    simp only [String.append_assoc]
    exact startsApart_of_cons (c := '?') (String.toList_append ..) (by decide)
  obtain ⟨address, front_eq⟩ : ∃ address, u.front = address ++ ":" := ⟨_, rfl⟩
  calc restorePort options port (pre ++ (u.front ++ placeholder options ++ u.back) ++ post)
    _ = restorePort options port
          (pre ++ (u.front ++ (placeholder options ++ (u.back ++ post)))) := by
        simp only [String.append_assoc]
    _ = restorePort options port pre ++
          restorePort options port (u.front ++ (placeholder options ++ (u.back ++ post))) :=
        restorePort_append options port pre (front_apart _)
    _ = restorePort options port pre ++ (restorePort options port u.front ++
          restorePort options port (placeholder options ++ (u.back ++ post))) := by
        rw [front_eq, restorePort_append_colon]
    _ = restorePort options port pre ++ (restorePort options port u.front ++
          (toString port.toInt ++ (restorePort options port u.back ++
            restorePort options port post))) := by
        rw [restorePort_append options port _ (back_apart post), restorePort_placeholder,
          restorePort_append options port u.back apart]
    _ = _ := by
        rw [restorePort_eq_self options port before, restorePort_eq_self options port behind]
        simp only [String.append_assoc]

/-- The link itself is restored, and nothing else, exactly if there is nothing to restore or the
placeholder occurs on neither side of its port. -/
theorem restored_eq_text_iff (u : Uri) :
    restorePort options port u.front ++ toString port.toInt ++ restorePort options port u.back =
        (u.withPort port).text ↔
      port = Int64.ofNat options.hiddenPort.toNat ∨
        showsPlaceholder options u.front = false ∧ showsPlaceholder options u.back = false := by
  rw [Uri.text_withPort, ← String.toList_inj, ← toString_eq_placeholder_iff]
  simp only [String.toList_append, toList_restorePort, List.append_assoc]
  rw [Replace.all_around_eq_iff (placeholder_ne_nil options), String.toList_inj]
  rfl

end Wrapped

/-! ## The answer -/

theorem startsApart_uriScheme {protocol : Protocol} {scheme : String}
    (uri : Link.uriScheme? protocol = some scheme) : StartsApart scheme := by
  cases protocol with
  | vmess => cases uri
  | vless | trojan | shadowsocks =>
    obtain rfl := Option.some.inj uri
    exact startsApart_of_cons rfl (by decide)

theorem prepare_of_rendered {store : InboundStore} {options : ClashOptions} {email host : String}
    {inbound outside : Inbound} (found : store.byClientEmail email = .ok (some inbound))
    (seen : Fallback.resolve store inbound = outside)
    (rendered : renderLink options outside email host ≠ "") :
    prepare store options email host =
      .ok ⟨renderLink options outside email host, outside.port⟩ := by
  simp only [prepare, found, seen, if_neg rendered]

theorem serve_of_missed {κ : Type} {store : InboundStore} {cache : CacheStore κ}
    {convert : String → Except Fault String} {options : ClashOptions} {state : κ}
    {email host text : String} {p : Prepared} {cached : Option CacheEntry}
    (prepared : prepare store options email host = .ok p)
    (looked : cache.find? state email = .ok cached)
    (missed : cachedAnswer? (fingerprint p.link) cached = none)
    (converted : convert p.link = .ok text) (now : Int64) :
    (serve store cache convert options now state email host).answer =
      .ok (restorePort options p.port text) :=
  congrArg Outcome.answer (Exit.delivered prepared looked missed converted).serve_eq

/-- **What is answered for a link that the converter hands through.**  The port of the link is
restored, and so is the whole link, exactly if the inbound listens on the placeholder itself or the
digits of the placeholder occur neither before nor after the port. -/
theorem answer_wrapped {κ : Type} {store : InboundStore} {cache : CacheStore κ}
    {options : ClashOptions} {state : κ} {email host : String} {inbound outside : Inbound}
    {protocol : Protocol} {scheme : String} {stream : Json} {clients : List Client}
    {client : Client} {cached : Option CacheEntry} {convert : String → Except Fault String}
    {pre post : String} (found : store.byClientEmail email = .ok (some inbound))
    (seen : Fallback.resolve store inbound = outside)
    (spoken : outside.protocol? = some protocol) (uri : Link.uriScheme? protocol = some scheme)
    (parsed : Json.parse? outside.streamSettings = some stream)
    (alone : ExternalProxy.listOfStream stream = []) (read : outside.clients? = some clients)
    (enabled : (clients.filter (·.enable)).find? (·.email = email) = some client)
    (server : protocol = .shadowsocks → (Link.shadowsocksServer? outside.settings).isSome)
    (looked : cache.find? state email = .ok cached)
    (missed : cachedAnswer? (fingerprint (renderLink options outside email host)) cached = none)
    (handed : ∀ link, convert link = .ok (pre ++ link ++ post))
    (before : showsPlaceholder options pre = false)
    (behind : showsPlaceholder options post = false) (apart : StartsApart post) (now : Int64) :
    let link (port : Option UInt16) := (Link.generate { context options host with port } outside
      email (clients.filter (·.enable)) (ChaCha.ofSeed (seedOf email))).1
    let answer := (serve store cache convert options now state email host).answer
    let u := Link.directUri (context options host) outside protocol scheme stream client
      (Link.drawSpider stream (Link.scope protocol) (ChaCha.ofSeed (seedOf email))).1
    link (some options.hiddenPort) = u.front ++ placeholder options ++ u.back ∧
      link none = u.front ++ toString outside.port.toInt ++ u.back ∧
      answer = .ok (pre ++ (restorePort options outside.port u.front ++
        toString outside.port.toInt ++ restorePort options outside.port u.back) ++ post) ∧
      (answer = .ok (pre ++ link none ++ post) ↔
        outside.port = Int64.ofNat options.hiddenPort.toNat ∨
          showsPlaceholder options u.front = false ∧ showsPlaceholder options u.back = false) := by
  intro link answer u
  have link_eq (port : Option UInt16) : link port =
      (u.withPort ({ context options host with port }.portFor outside)).text :=
    Link.generate_of_alone uri spoken parsed enabled server alone _ _ port
  have hidden : link (some options.hiddenPort) = u.front ++ placeholder options ++ u.back := by
    rw [link_eq, Uri.text_withPort, ← toString_hiddenPort]
    rfl
  have own : link none = (u.withPort outside.port).text := link_eq none
  have rendered : renderLink options outside email host =
      u.front ++ placeholder options ++ u.back := by
    rw [← hidden, renderLink, read]
    rfl
  have full : renderLink options outside email host ≠ "" := by
    intro empty
    rw [rendered, Uri.front, ← String.toList_inj] at empty
    simp at empty
  have scheme_apart : StartsApart u.scheme := startsApart_uriScheme uri
  have answered : answer = .ok (pre ++ (restorePort options outside.port u.front ++
      toString outside.port.toInt ++ restorePort options outside.port u.back) ++ post) := by
    refine (serve_of_missed (prepare_of_rendered found seen full) looked missed (handed _)
      now).trans ?_
    rw [rendered, restorePort_wrapped options _ scheme_apart before behind apart]
  refine ⟨hidden, own.trans (u.text_withPort _), answered, ?_⟩
  rw [answered, own, Except.ok.injEq, String.append_left_inj, String.append_right_inj,
    restored_eq_text_iff]

/-- A converter that writes the link on a line of its own. -/
def handThrough (link : String) : Except Fault String := .ok ("link: " ++ link ++ "\n")

/-- What is answered for `kim` in an inbound. -/
def answerHanded (i : Inbound) : Except Failure String :=
  (serve (MemoryInbounds.store [i]) MemoryCache.store handThrough plainOptions 0 {} "kim"
    "h.example").answer

/-- The link of a client of an inbound, with the inbound's own port. -/
def ownLink (i : Inbound) (client : Client) : String :=
  (Link.generate { context plainOptions "h.example" with port := none } i "kim" [client]
    (ChaCha.ofSeed (seedOf "kim"))).1

/-- The client of the inbound at a port. -/
def edgeClient : Client := { id := "key", email := "kim", enable := true }

/-- Nothing on either side of the port looks like the placeholder, so the link is restored. -/
theorem answer_wrapped_kim :
    answerHanded (edgeAt 443) = .ok ("link: " ++ ownLink (edgeAt 443) edgeClient ++ "\n") := by
  have found : (MemoryInbounds.store [edgeAt 443]).byClientEmail "kim" =
      .ok (some (edgeAt 443)) := rfl
  have seen : Fallback.resolve (MemoryInbounds.store [edgeAt 443]) (edgeAt 443) = edgeAt 443 := rfl
  have spoken : (edgeAt 443).protocol? = some .vless := by decide
  have parsed : Json.parse? (edgeAt 443).streamSettings = some (.obj []) := rfl
  have read : (edgeAt 443).clients? = some [edgeClient] := by decide +kernel
  have enabled : ([edgeClient].filter (·.enable)).find? (·.email = "kim") = some edgeClient := by
    decide
  have looked : MemoryCache.store.find? {} "kim" = .ok none := rfl
  have missed : cachedAnswer?
      (fingerprint (renderLink plainOptions (edgeAt 443) "kim" "h.example")) none = none := rfl
  have handed (link : String) : handThrough link = .ok ("link: " ++ link ++ "\n") := rfl
  have before : showsPlaceholder plainOptions "link: " = false := by decide
  have behind : showsPlaceholder plainOptions "\n" = false := by decide
  have apart : StartsApart "\n" := startsApart_of_cons (c := '\n') rfl (by decide)
  obtain ⟨-, -, -, restored⟩ := answer_wrapped found seen spoken rfl parsed rfl read enabled
    (by simp) looked missed handed before behind apart 0
  exact restored.2 (.inr ⟨by decide +kernel, by decide +kernel⟩)

/-- An inbound whose client has the digits of the placeholder for an id. -/
def numbered : Inbound :=
  { edgeAt 443 with
    settings := "\x7b\"clients\":[\x7b\"id\":\"45556\",\"email\":\"kim\",\"enable\":true\x7d]\x7d" }

/-- The link of that client, with the inbound's own port. -/
def numberedLink : String := ownLink numbered { edgeClient with id := "45556" }

/-- **The id of the client is lost**: the port stands in its place as well. -/
theorem answerHanded_numbered :
    numberedLink = "vless://45556@h.example:443?security=none&type=tcp#Edge-kim" ∧
      answerHanded numbered =
        .ok "link: vless://443@h.example:443?security=none&type=tcp#Edge-kim\n" ∧
      answerHanded numbered ≠ .ok ("link: " ++ numberedLink ++ "\n") := by
  have own : numberedLink = "vless://45556@h.example:443?security=none&type=tcp#Edge-kim" := by
    decide +kernel
  have answered : answerHanded numbered =
      .ok "link: vless://443@h.example:443?security=none&type=tcp#Edge-kim\n" := by
    decide +kernel
  refine ⟨own, answered, ?_⟩
  rw [answered, own]
  decide

end Clash

end ProxyFeed
