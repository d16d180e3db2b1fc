import ProxyFeed.Inbound.Basic
import ProxyFeed.Link.ExternalProxy
import ProxyFeed.Link.Security
import ProxyFeed.Random.Spider
import ProxyFeed.Remark.Basic
import ProxyFeed.Text.Base64

/-!
# Share links

A share link tells a client program everything it needs to connect: where, with which credential,
over which transport and security layer, and under which name.

## What is here

* `LinkContext` — what a link takes from the request it answers.
* `Uri` — the parts of a vless, trojan or shadowsocks link, and their text.
* `Link.vmess`, `Link.uri`, `Link.shadowsocks` — the links of one client of one inbound.  Without
  external proxies there is one link, to the inbound itself; otherwise there is one to each of them.
* `Link.lines` — the same for all protocols.
* `Link.generate` — the same by e-mail, joined by line breaks, with the spider path drawn from a
  source.
-/

set_option autoImplicit false
namespace ProxyFeed

/-- What a link takes from the request it answers: the address the client used, a port that replaces
the inbound's, and how names are put together. -/
structure LinkContext where
  address : String
  port : Option UInt16
  remarkModel : String
  showInfo : Bool
deriving DecidableEq, Repr

namespace LinkContext

/-- How names are put together. -/
def remarkFormat (ctx : LinkContext) : RemarkFormat := ⟨ctx.remarkModel, ctx.showInfo⟩

/-- The port in links that point at an inbound itself. -/
def portFor (ctx : LinkContext) (inbound : Inbound) : Int64 :=
  match ctx.port with
  | some p => Int64.ofNat p.toNat
  | none => inbound.port

end LinkContext

/-- The parts of a link in URI form. -/
structure Uri where
  scheme : String
  credential : String
  address : String
  port : Int64
  params : ParamSet
  remark : String
deriving DecidableEq, Repr

namespace Uri

/-- An address as the host of a URI: one with a colon is put in brackets, unless it has them. -/
def host (address : String) : String :=
  if address.toList.contains ':' ∧ address.toList.head? ≠ some '[' then "[" ++ address ++ "]"
  else address

/-- The text of a link. -/
def text (u : Uri) : String :=
  u.scheme ++ "://" ++ String.ofList (Percent.userinfo u.credential) ++ "@" ++ host u.address ++
    ":" ++ toString u.port.toInt ++ "?" ++ u.params.query ++ "#" ++
    String.ofList (Percent.fragment u.remark)

end Uri

namespace Link

/-! ## Names -/

/-- The name of a link; `extra` is the name of the external proxy it points at. -/
def name (ctx : LinkContext) (inbound : Inbound) (client : Client) (extra : String) : String :=
  ctx.remarkFormat.render inbound client.email extra

/-! ## vmess -/

/-- The document of a vmess link that points at the inbound itself, before it has a name. -/
def vmessObject (ctx : LinkContext) (inbound : Inbound) (stream : Json) (client : Client)
    (security : Security) : ParamSet :=
  let network := Network.ofStream stream
  let out := (ParamSet.empty.setText "v" "2").setText "add" ctx.address
  let out := (out.set "port" (.int (ctx.portFor inbound))).setText "type" "none"
  let out := out.setText "net" network.tag
  let out := (Transport.ofStream stream network).writeDocument network out
  let out := (security.writeDocument out).setText "id" client.id
  (out.set "aid" (.int 0)).setText "scy" client.security

/-- The layer an external proxy imposes, written into a document; no layer has no TLS identity. -/
def imposeOnDocument (forced : Option String) (out : ParamSet) : ParamSet :=
  match forced with
  | none => out
  | some mode =>
    let out := out.setText "tls" mode
    if mode = SecurityMode.none.tag then out.removeTlsIdentity else out

/-- A vmess link. -/
def vmessText (document : ParamSet) : String := "vmess://" ++ base64 (utf8 document.document)

/-- The vmess links of a client.  The document for the inbound itself is complete but for its name;
that of an external proxy is overwritten with the place and the layer. -/
def vmess (ctx : LinkContext) (inbound : Inbound) (stream : Json) (client : Client)
    (spx : String) : List String :=
  let out := vmessObject ctx inbound stream client (Security.ofStream stream .full spx)
  match ExternalProxy.listOfStream stream with
  | [] => [vmessText (out.setText "ps" (name ctx inbound client ""))]
  | proxies => proxies.map fun p =>
    let out := (out.setText "add" p.dest).set "port" (.int (Int64.ofNat p.port.toNat))
    let out := imposeOnDocument p.forcedSecurity out
    vmessText (out.setText "ps" (name ctx inbound client p.remark))

/-! ## Links in URI form -/

/-- The parameters that are written before it is known where a link points. -/
def uriBase (stream : Json) (security : Security) : ParamSet :=
  let network := Network.ofStream stream
  let out := ParamSet.empty.setText "type" network.tag
  security.writeQuery ((Transport.ofStream stream network).writeQuery network out)

/-- A link in URI form that points at the inbound itself. -/
def directLink (ctx : LinkContext) (inbound : Inbound) (client : Client)
    (scheme credential : String) (params : ParamSet) : String :=
  Uri.text ⟨scheme, credential, ctx.address, ctx.portFor inbound, params,
    name ctx inbound client ""⟩

/-- A link in URI form that points at an external proxy. -/
def proxyLink (ctx : LinkContext) (inbound : Inbound) (client : Client)
    (scheme credential : String) (p : ExternalProxy) (params : ParamSet) : String :=
  Uri.text ⟨scheme, credential, p.dest, Int64.ofNat p.port.toNat, params,
    name ctx inbound client p.remark⟩

/-- The vless or trojan links of a client.  A link to the inbound itself keeps the layer that the
security fields have written, and a link to an external proxy has its layer written again; no layer
has no TLS identity. -/
def uri (ctx : LinkContext) (inbound : Inbound) (stream : Json) (client : Client) (spx : String)
    (scheme credential : String) : List String :=
  let security := (Security.ofStream stream .full spx).attachFlow client.flow
    (Network.ofStream stream)
  let params := uriBase stream security
  match ExternalProxy.listOfStream stream with
  | [] =>
    let params := if security.mode = .none then params.removeTlsIdentity else params
    [directLink ctx inbound client scheme credential params]
  | proxies => proxies.map fun p =>
    let mode := p.forcedSecurity.getD security.mode.tag
    let params := params.setText "security" mode
    let params := if mode = SecurityMode.none.tag then params.removeTlsIdentity else params
    proxyLink ctx inbound client scheme credential p params

/-- Does a text occur in another? -/
def occursIn (pattern : List Char) : List Char → Bool
  | [] => pattern.isEmpty
  | c :: cs => pattern.isPrefixOf (c :: cs) || occursIn pattern cs

/-- The secret of a shadowsocks client: its own password, unless it has none or the method is of the
2022 edition. -/
def shadowsocksSecret (method serverPassword clientPassword : String) : String :=
  if occursIn "2022".toList method.toList ∨ clientPassword = "" then serverPassword
  else clientPassword

/-- The method and the server's password in shadowsocks settings. -/
def shadowsocksServer? (settings : String) : Option (String × String) := do
  let v ← Json.parse? settings
  return (← v.text? "method", ← v.text? "password")

/-- The credential of a shadowsocks link: method and secret in base64. -/
def shadowsocksCredential? (inbound : Inbound) (client : Client) : Option String := do
  let (method, password) ← shadowsocksServer? inbound.settings
  return base64 (utf8 (method ++ ":" ++ shadowsocksSecret method password client.password))

/-- The shadowsocks links of a client; none without a credential.  The TLS identity stays, whatever
the layer. -/
def shadowsocks (ctx : LinkContext) (inbound : Inbound) (stream : Json) (client : Client)
    (spx : String) : List String :=
  match shadowsocksCredential? inbound client with
  | none => []
  | some credential =>
    let security := Security.ofStream stream .tlsOnly spx
    let params := uriBase stream security
    match ExternalProxy.listOfStream stream with
    | [] => [directLink ctx inbound client "ss" credential params]
    | proxies => proxies.map fun p =>
      let params := params.setText "security" (p.forcedSecurity.getD security.mode.tag)
      proxyLink ctx inbound client "ss" credential p params

/-! ## All protocols -/

/-- The layers a protocol can carry. -/
def scope : Protocol → SecurityScope
  | .shadowsocks => .tlsOnly
  | _ => .full

/-- The links of a client: one for each external proxy, or one for the inbound if it has none. -/
def lines (ctx : LinkContext) (inbound : Inbound) (protocol : Protocol) (stream : Json)
    (client : Client) (spx : String) : List String :=
  match protocol with
  | .vmess => vmess ctx inbound stream client spx
  | .vless => uri ctx inbound stream client spx "vless" client.id
  | .trojan => uri ctx inbound stream client spx "trojan" client.password
  | .shadowsocks => shadowsocks ctx inbound stream client spx

/-- The spider path that reading stream settings takes from a source: one if there is a use for it,
and none otherwise. -/
def drawSpider {ρ : Type} [SpiderSource ρ] (stream : Json) (scope : SecurityScope) (source : ρ) :
    String × ρ :=
  if Security.drawsSpider stream scope then SpiderSource.draw source else ("", source)

/-- The links of the first client with an e-mail, joined by line breaks; the empty text if there is
nothing to render.  One spider path is drawn for all of them, if they carry one. -/
def generate {ρ : Type} [SpiderSource ρ] (ctx : LinkContext) (inbound : Inbound) (email : String)
    (clients : List Client) (source : ρ) : String × ρ :=
  match inbound.protocol?, Json.parse? inbound.streamSettings, clients.find? (·.email = email) with
  | some protocol, some stream, some client =>
    let (spx, source) := drawSpider stream (scope protocol) source
    ("\n".intercalate (lines ctx inbound protocol stream client spx), source)
  | _, _, _ => ("", source)

/-- The texts of several e-mails in turn, from one source. -/
def generateAll {ρ : Type} [SpiderSource ρ] (ctx : LinkContext) (inbound : Inbound)
    (clients : List Client) : List String → ρ → List String × ρ
  | [], source => ([], source)
  | email :: emails, source =>
    let (text, source) := generate ctx inbound email clients source
    let (texts, source) := generateAll ctx inbound clients emails source
    (text :: texts, source)

end Link
end ProxyFeed
