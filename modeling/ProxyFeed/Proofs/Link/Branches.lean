import ProxyFeed.Link.Basic
import ProxyFeed.Proofs.Link.Fields
import ProxyFeed.Proofs.Link.ParamOrder

/-!
# One path for all links of a client

The link to an inbound itself is made in one place, and the links to its external proxies in
another.  The first keeps what the writers have put there: the address and the port that a document
was begun with, and the layer that came with the security fields.  The others have place and layer
set over it.

Setting what is there already changes nothing, so the link to the inbound itself is what the second
path gives for the place and the layer of the inbound.  Therefore one path is enough to reason
about: a link is made from a common set and an *endpoint*, be it the inbound or a proxy.

## What is here

* `Endpoint` — where a link points; `Endpoint.all` are those of an inbound.
* `Link.vmessDocument`, `Link.uriParams` and `Link.shadowsocksParams` — the one path, from an
  endpoint to the parameters of its link.
* `ParamSet.AgreeApart` — sets that differ under some keys at most.  A document is begun with a
  place or gets it at the end; the entries come in another order then, and sorting makes them the
  same.
* `Link.vmess_eq_map`, `Link.uri_eq_map` and `Link.shadowsocks_eq_map` — both branches of each
  renderer follow that path.
-/

set_option autoImplicit false
namespace ProxyFeed

/-! ## Endpoints -/

/-- Where a link points, the layer imposed there, and the name of the place. -/
structure Endpoint where
  address : String
  port : Int64
  forcedSecurity : Option String
  remark : String
deriving DecidableEq, Repr

namespace Endpoint

/-- The inbound itself. -/
def direct (ctx : LinkContext) (inbound : Inbound) : Endpoint :=
  ⟨ctx.address, ctx.portFor inbound, none, ""⟩

/-- An external proxy. -/
def ofProxy (p : ExternalProxy) : Endpoint :=
  ⟨p.dest, Int64.ofNat p.port.toNat, p.forcedSecurity, p.remark⟩

/-- The endpoints of an inbound: its external proxies, or itself if it has none. -/
def all (ctx : LinkContext) (inbound : Inbound) (stream : Json) : List Endpoint :=
  match ExternalProxy.listOfStream stream with
  | [] => [direct ctx inbound]
  | proxies => proxies.map ofProxy

/-- What is done at each endpoint is done for the inbound itself or for its proxies. -/
theorem map_all {α : Type} (f : Endpoint → α) (ctx : LinkContext) (inbound : Inbound)
    (stream : Json) : (all ctx inbound stream).map f =
      match ExternalProxy.listOfStream stream with
      | [] => [f (direct ctx inbound)]
      | proxies => proxies.map fun p => f (ofProxy p) := by
  rw [all]
  cases ExternalProxy.listOfStream stream with
  | nil => rfl
  | cons p ps => exact List.map_map

end Endpoint

/-! ## Sets that agree -/

namespace ParamSet

/-- Sets that have the same under every key, apart from some. -/
def AgreeApart (keys : List String) (s t : ParamSet) : Prop :=
  ∀ key, key ∉ keys → s.get? key = t.get? key

namespace AgreeApart

variable {keys : List String} {s t : ParamSet}

theorem set (h : AgreeApart keys s t) (k : String) (v : ParamValue) :
    AgreeApart keys (s.set k v) (t.set k v) := by
  intro key other
  rw [get?_set, get?_set, h key other]

theorem setText (h : AgreeApart keys s t) (k v : String) :
    AgreeApart keys (s.setText k v) (t.setText k v) :=
  h.set k _

theorem removeTlsIdentity (h : AgreeApart keys s t) :
    AgreeApart keys s.removeTlsIdentity t.removeTlsIdentity := by
  intro key other
  rw [ParamSet.removeTlsIdentity, ParamSet.removeTlsIdentity, get?_removeAll, get?_removeAll,
    h key other]

/-- A key that is set in both sets need not be left out any more. -/
theorem settle {k : String} (h : AgreeApart (k :: keys) s t) (v : ParamValue) :
    AgreeApart keys (s.set k v) (t.set k v) := by
  intro key other
  rw [get?_set, get?_set]
  split
  · rfl
  · next apart => exact h key (by simp [apart, other])

theorem writeTransport (h : AgreeApart keys s t) (transport : Transport) (network : Network) :
    AgreeApart keys (transport.writeDocument network s) (transport.writeDocument network t) := by
  intro key other
  rw [Transport.get?_writeDocument_eq, Transport.get?_writeDocument_eq, h key other]

theorem writeSecurity (h : AgreeApart keys s t) (security : Security) :
    AgreeApart keys (security.writeDocument s) (security.writeDocument t) := by
  intro key other
  rw [Security.writeDocument, Security.writeDocument, Security.get?_writeCommon_eq,
    Security.get?_writeCommon_eq]
  split
  · rw [h key other]
  · rw [h.setText _ _ key other]

theorem imposeOnDocument (h : AgreeApart keys s t) (forced : Option String) :
    AgreeApart keys (Link.imposeOnDocument forced s) (Link.imposeOnDocument forced t) := by
  cases forced with
  | none => exact h
  | some mode =>
    rw [Link.imposeOnDocument, Link.imposeOnDocument]
    split
    · exact (h.setText _ _).removeTlsIdentity
    · exact h.setText _ _

end AgreeApart

/-- Sets that agree have the same document, in whatever order their keys were set. -/
theorem Distinct.document_eq {s t : ParamSet} (hs : s.Distinct) (ht : t.Distinct)
    (same : AgreeApart [] s t) : s.document = t.document := by
  have listed := hs.sorted_eq ht fun key => same key List.not_mem_nil
  rw [document, document, toJson, toJson, listed]

end ParamSet

namespace Link

/-! ## The one path -/

/-- The name of a link. -/
def remark (ctx : LinkContext) (inbound : Inbound) (client : Client) (e : Endpoint) : String :=
  name ctx inbound client e.remark

/-- Fills a document up with everything that does not depend on where the link points. -/
def fillDocument (stream : Json) (client : Client) (security : Security) (start : ParamSet) :
    ParamSet :=
  let network := Network.ofStream stream
  let out := (start.setText "type" "none").setText "net" network.tag
  let out := (Transport.ofStream stream network).writeDocument network out
  let out := (security.writeDocument out).setText "id" client.id
  (out.set "aid" (.int 0)).setText "scy" client.security

/-- The document of a vmess link before its endpoint is known. -/
def vmessBase (stream : Json) (client : Client) (security : Security) : ParamSet :=
  fillDocument stream client security (ParamSet.empty.setText "v" "2")

/-- The document of a vmess link. -/
def vmessDocument (base : ParamSet) (e : Endpoint) (remark : String) : ParamSet :=
  let out := (base.setText "add" e.address).set "port" (.int e.port)
  (imposeOnDocument e.forcedSecurity out).setText "ps" remark

/-- The security fields of a client's link. -/
def clientSecurity (stream : Json) (client : Client) (spx : String) : Security :=
  (Security.ofStream stream .full spx).attachFlow client.flow (Network.ofStream stream)

/-- The layer in force at an endpoint. -/
def effectiveMode (security : Security) (e : Endpoint) : String :=
  e.forcedSecurity.getD security.mode.tag

/-- The parameters of a vless or trojan link: no layer has no TLS identity. -/
def uriParams (base : ParamSet) (security : Security) (e : Endpoint) : ParamSet :=
  let out := base.setText "security" (effectiveMode security e)
  if effectiveMode security e = SecurityMode.none.tag then out.removeTlsIdentity else out

/-- The parameters of a shadowsocks link. -/
def shadowsocksParams (base : ParamSet) (security : Security) (e : Endpoint) : ParamSet :=
  base.setText "security" (effectiveMode security e)

/-! ## Different keys -/

/-- **The parameters of a vless or trojan link have different keys.** -/
theorem distinct_uriParams (stream : Json) (security : Security) (e : Endpoint) :
    (uriParams (uriBase stream security) security e).Distinct := by
  have moded := (distinct_uriBase stream security).setText "security" (effectiveMode security e)
  rw [uriParams]
  split
  · exact moded.removeTlsIdentity
  · exact moded

/-- **The parameters of a shadowsocks link have different keys.** -/
theorem distinct_shadowsocksParams (stream : Json) (security : Security) (e : Endpoint) :
    (shadowsocksParams (uriBase stream security) security e).Distinct :=
  (distinct_uriBase stream security).setText _ _

theorem distinct_fillDocument {start : ParamSet} (h : start.Distinct) (stream : Json)
    (client : Client) (security : Security) :
    (fillDocument stream client security start).Distinct := by
  have begun := (h.setText "type" "none").setText "net" (Network.ofStream stream).tag
  have written := security.distinct_writeDocument (Transport.distinct_writeDocument begun
    (Transport.ofStream stream (Network.ofStream stream)) (Network.ofStream stream))
  exact ((written.setText _ _).set _ _).setText _ _

theorem distinct_imposeOnDocument {out : ParamSet} (h : out.Distinct) (forced : Option String) :
    (imposeOnDocument forced out).Distinct := by
  cases forced with
  | none => exact h
  | some mode =>
    rw [imposeOnDocument]
    split
    · exact (h.setText _ _).removeTlsIdentity
    · exact h.setText _ _

theorem distinct_vmessDocument_of_distinct {base : ParamSet} (h : base.Distinct) (e : Endpoint)
    (remark : String) : (vmessDocument base e remark).Distinct :=
  (distinct_imposeOnDocument ((h.setText _ _).set _ _) _).setText _ _

/-- **The document of a vmess link has different keys.** -/
theorem distinct_vmessDocument (stream : Json) (client : Client) (security : Security)
    (e : Endpoint) (remark : String) :
    (vmessDocument (vmessBase stream client security) e remark).Distinct :=
  distinct_vmessDocument_of_distinct
    (distinct_fillDocument (ParamSet.distinct_empty.setText _ _) _ _ _) e remark

/-! ## Documents

A document is begun with the place of the inbound, which the one path adds at the end. -/

section Document

variable (ctx : LinkContext) (inbound : Inbound) (stream : Json) (client : Client)
  (security : Security)

/-- A document for the inbound itself, as it is begun. -/
def begunDocument : ParamSet :=
  ((ParamSet.empty.setText "v" "2").setText "add" ctx.address).set "port"
    (.int (ctx.portFor inbound))

theorem vmessObject_eq : vmessObject ctx inbound stream client security =
    fillDocument stream client security (begunDocument ctx inbound) := rfl

theorem distinct_vmessObject : (vmessObject ctx inbound stream client security).Distinct :=
  distinct_fillDocument (((ParamSet.distinct_empty.setText _ _).setText _ _).set _ _) _ _ _

/-- What is filled in leaves every other key alone. -/
theorem get?_fillDocument {key : String} (own : key ∉ ["id", "aid", "scy", "tls"])
    (transport : key ∉ Transport.documentKeys) (common : key ∉ Security.commonKeys)
    (start : ParamSet) : (fillDocument stream client security start).get? key =
      if key = "net" then some (.text (Network.ofStream stream).tag) else start.get? key := by
  simp only [List.mem_cons, List.not_mem_nil, or_false, not_or] at own
  obtain ⟨id, aid, scy, tls⟩ := own
  have type : key ≠ "type" := fun same => transport (same ▸ List.mem_cons_self)
  rw [fillDocument, ParamSet.get?_setText_of_ne scy, ParamSet.get?_set_of_ne aid,
    ParamSet.get?_setText_of_ne id, Security.get?_writeDocument tls common,
    Transport.get?_writeDocument transport, ParamSet.get?_setText, ParamSet.get?_setText_of_ne type]

variable {stream client security} in
theorem agreeApart_fillDocument {keys : List String} {s t : ParamSet} (h : s.AgreeApart keys t) :
    (fillDocument stream client security s).AgreeApart keys
      (fillDocument stream client security t) := by
  have begun := (h.setText "type" "none").setText "net" (Network.ofStream stream).tag
  have written := (begun.writeTransport (Transport.ofStream stream (Network.ofStream stream))
    (Network.ofStream stream)).writeSecurity security
  exact ((written.setText "id" client.id).set "aid" (.int 0)).setText "scy" client.security

theorem agreeApart_vmessObject : (vmessObject ctx inbound stream client security).AgreeApart
    ["add", "port"] (vmessBase stream client security) := by
  rw [vmessObject_eq]
  refine agreeApart_fillDocument fun key other => ?_
  simp only [List.mem_cons, List.not_mem_nil, or_false, not_or] at other
  obtain ⟨add, port⟩ := other
  rw [begunDocument, ParamSet.get?_set_of_ne port, ParamSet.get?_setText_of_ne add]

/-- The document for the inbound itself is at its place from the start. -/
theorem vmessObject_placed :
    ((vmessObject ctx inbound stream client security).setText "add" ctx.address).set "port"
        (.int (ctx.portFor inbound)) =
      vmessObject ctx inbound stream client security := by
  have distinct := distinct_vmessObject ctx inbound stream client security
  have add : (vmessObject ctx inbound stream client security).get? "add" =
      some (.text ctx.address) := by
    rw [vmessObject_eq, get?_fillDocument _ _ _ (by decide) (by decide) (by decide),
      if_neg (by decide), begunDocument, ParamSet.get?_set_of_ne (by decide),
      ParamSet.get?_setText_self]
  have port : (vmessObject ctx inbound stream client security).get? "port" =
      some (.int (ctx.portFor inbound)) := by
    rw [vmessObject_eq, get?_fillDocument _ _ _ (by decide) (by decide) (by decide),
      if_neg (by decide), begunDocument, ParamSet.get?_set_self]
  rw [ParamSet.setText, distinct.set_eq_self add, distinct.set_eq_self port]

/-- Whether a document was begun with a place does not show once it has another one. -/
theorem document_vmessObject (e : Endpoint) (remark : String) :
    (vmessDocument (vmessObject ctx inbound stream client security) e remark).document =
      (vmessDocument (vmessBase stream client security) e remark).document := by
  have begun := distinct_vmessObject ctx inbound stream client security
  have placed := ((agreeApart_vmessObject ctx inbound stream client security).settle
    (.text e.address)).settle (.int e.port)
  exact (distinct_vmessDocument_of_distinct begun e remark).document_eq
    (distinct_vmessDocument stream client security e remark)
    ((placed.imposeOnDocument e.forcedSecurity).setText "ps" remark)

/-- **Both branches of vmess follow the one path.** -/
theorem vmess_eq_map (spx : String) : vmess ctx inbound stream client spx =
    (Endpoint.all ctx inbound stream).map fun e => vmessText (vmessDocument
      (vmessBase stream client (Security.ofStream stream .full spx)) e
        (remark ctx inbound client e)) := by
  have text (e : Endpoint) : vmessText (vmessDocument (vmessObject ctx inbound stream client
        (Security.ofStream stream .full spx)) e (remark ctx inbound client e)) =
      vmessText (vmessDocument (vmessBase stream client (Security.ofStream stream .full spx)) e
        (remark ctx inbound client e)) := by
    rw [vmessText, vmessText, document_vmessObject]
  simp only [← text]
  rw [vmess, Endpoint.map_all]
  cases ExternalProxy.listOfStream stream with
  | nil =>
    have placed := vmessObject_placed ctx inbound stream client (Security.ofStream stream .full spx)
    rw [vmessDocument, Endpoint.direct, imposeOnDocument, placed]
    rfl
  | cons p ps => rfl

end Document

/-! ## Links in URI form

The layer is written with the security fields, and the one path writes it once more. -/

section Uri

variable (ctx : LinkContext) (inbound : Inbound) (stream : Json) (client : Client)

theorem get?_security_uriBase (stream : Json) (s : Security) :
    (uriBase stream s).get? "security" = some (.text s.mode.tag) :=
  s.get?_security_writeQuery _

section Unforced

variable {e : Endpoint} (unforced : e.forcedSecurity = none) (security : Security)

include unforced

/-- Where no layer is imposed, the one that was written stays. -/
theorem shadowsocksParams_of_unforced :
    shadowsocksParams (uriBase stream security) security e = uriBase stream security := by
  rw [shadowsocksParams, effectiveMode, unforced]
  exact (distinct_uriBase stream security).set_eq_self (get?_security_uriBase stream security)

/-- A layer that was written as none at all still takes the identity away. -/
theorem uriParams_of_unforced : uriParams (uriBase stream security) security e =
    if security.mode = .none then (uriBase stream security).removeTlsIdentity
    else uriBase stream security := by
  have stays := shadowsocksParams_of_unforced stream unforced security
  have mode : effectiveMode security e = security.mode.tag := by rw [effectiveMode, unforced]; rfl
  rw [shadowsocksParams] at stays
  rw [uriParams, stays, mode]
  simp only [SecurityMode.tag_injective.eq_iff]

end Unforced

/-- **Both branches of vless and trojan follow the one path.** -/
theorem uri_eq_map (spx scheme credential : String) :
    uri ctx inbound stream client spx scheme credential =
      (Endpoint.all ctx inbound stream).map fun e => Uri.text ⟨scheme, credential, e.address,
        e.port, uriParams (uriBase stream (clientSecurity stream client spx))
          (clientSecurity stream client spx) e, remark ctx inbound client e⟩ := by
  rw [uri, Endpoint.map_all]
  cases ExternalProxy.listOfStream stream with
  | nil =>
    rw [uriParams_of_unforced stream rfl]
    rfl
  | cons p ps => rfl

/-- **Both branches of shadowsocks follow the one path.** -/
theorem shadowsocks_eq_map (spx : String) :
    shadowsocks ctx inbound stream client spx =
      match shadowsocksCredential? inbound client with
      | none => []
      | some credential =>
        (Endpoint.all ctx inbound stream).map fun e => Uri.text ⟨"ss", credential, e.address,
          e.port, shadowsocksParams (uriBase stream (Security.ofStream stream .tlsOnly spx))
            (Security.ofStream stream .tlsOnly spx) e, remark ctx inbound client e⟩ := by
  rw [shadowsocks]
  cases shadowsocksCredential? inbound client with
  | none => rfl
  | some credential =>
    dsimp only
    rw [Endpoint.map_all]
    cases ExternalProxy.listOfStream stream with
    | nil =>
      rw [shadowsocksParams_of_unforced stream rfl]
      rfl
    | cons p ps => rfl

end Uri

end Link
end ProxyFeed
