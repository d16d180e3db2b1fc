import ProxyFeed.Json.Search
import ProxyFeed.Link.ParamSet
import ProxyFeed.Link.ShortId
import ProxyFeed.Link.Transport

/-!
# Security

The security layer of a link: none, TLS or Reality, and the fields a client needs for it.

## What is here

* `SecurityMode`, `SecurityScope` — the layers, and those a protocol can carry.
* `Security` — the fields, read from the stream settings by `Security.ofStream`.  A Reality layer
  includes a spider path, which the caller draws exactly when `Security.drawsSpider` says so.
* `Security.attachFlow` — the client's flow, carried by Reality over tcp only.
* `Security.writeQuery` and `Security.writeDocument` — the fields in a query and in a document.
-/

set_option autoImplicit false
namespace ProxyFeed

/-- A security layer. -/
inductive SecurityMode where
  | none
  | tls
  | reality
deriving DecidableEq, Repr

namespace SecurityMode

/-- The name of a layer. -/
def tag : SecurityMode → String
  | .none => "none"
  | .tls => "tls"
  | .reality => "reality"

end SecurityMode

/-- The layers a protocol can carry: all of them, or no more than plain TLS. -/
inductive SecurityScope where
  | full
  | tlsOnly
deriving DecidableEq, Repr

/-- The security fields of a link. -/
structure Security where
  mode : SecurityMode := .none
  alpn : Option String := none
  sni : Option String := none
  fp : Option String := none
  allowInsecure : Bool := false
  pbk : Option String := none
  sid : Option String := none
  spx : Option String := none
  flow : Option String := none
deriving DecidableEq, Repr

namespace Security

/-- The layer stream settings name, as far as the scope allows it. -/
def modeOf (stream : Json) (scope : SecurityScope) : SecurityMode :=
  match stream.text? "security" with
  | some tag =>
    if tag = "tls" then .tls
    else if tag = "reality" ∧ scope = .full then .reality
    else .none
  | Option.none => .none

/-- The block of client-side settings: the first member named `settings` anywhere in a block, if it
is an object. -/
def clientBlock? (block : Json) : Option Json :=
  (block.search "settings").filter fun v => v.obj?.isSome

/-- The fields of a TLS block. -/
def ofTls (block : Json) : Security :=
  let alpn := (((block.get? "alpn").bind Json.arr?).getD []).filterMap Json.str?
  let client := clientBlock? block
  { mode := .tls
    alpn := if alpn = [] then Option.none else some (",".intercalate alpn)
    sni := block.searchText "serverName"
    fp := client.bind (·.searchText "fingerprint")
    allowInsecure := (client.bind (·.search "allowInsecure")).bind Json.bool? = some true }

/-- The fields of a Reality block, apart from the spider path. -/
def ofReality (block : Json) : Security :=
  let client := clientBlock? block
  { mode := .reality
    sni := (((block.search "serverNames").bind Json.arr?).bind List.head?).bind Json.str?
    pbk := client.bind (·.searchText "publicKey")
    fp := (client.bind (·.searchText "fingerprint")).filter (· ≠ "")
    sid := ((block.search "shortIds").bind Json.arr?).bind ShortId.first? }

/-- Does reading the stream settings take a spider path? -/
def drawsSpider (stream : Json) (scope : SecurityScope) : Bool := modeOf stream scope = .reality

/-- The fields in stream settings; `spx` is the spider path, used by Reality alone. -/
def ofStream (stream : Json) (scope : SecurityScope) (spx : String) : Security :=
  match modeOf stream scope with
  | .none => {}
  | .tls => ((stream.get? "tlsSettings").map ofTls).getD { mode := .tls }
  | .reality =>
    { ((stream.get? "realitySettings").map ofReality).getD { mode := .reality } with
      spx := some spx }

/-- Adds the client's flow where it is carried. -/
def attachFlow (s : Security) (flow : String) (network : Network) : Security :=
  if s.mode = .reality ∧ network = .tcp ∧ flow ≠ "" then { s with flow := some flow } else s

/-- The fields that a query and a document share. -/
def writeCommon (s : Security) (out : ParamSet) : ParamSet :=
  let out := ((out.setText? "alpn" s.alpn).setText? "sni" s.sni).setText? "fp" s.fp
  let out := if s.allowInsecure then out.setText "allowInsecure" "1" else out
  ((out.setText? "pbk" s.pbk).setText? "sid" s.sid).setText? "spx" s.spx

/-- The fields in the query of a link. -/
def writeQuery (s : Security) (out : ParamSet) : ParamSet :=
  (s.writeCommon (out.setText "security" s.mode.tag)).setText? "flow" s.flow

/-- The fields in a vmess document, where no layer leaves no trace. -/
def writeDocument (s : Security) (out : ParamSet) : ParamSet :=
  s.writeCommon (if s.mode = .none then out else out.setText "tls" s.mode.tag)

end Security
end ProxyFeed
