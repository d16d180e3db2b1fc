import ProxyFeed.Json.Search
import ProxyFeed.Link.ParamSet

/-!
# Transport

How a client reaches an inbound below the security layer: the network, and the fields that network
needs.

## What is here

* `Network` — the networks with fields of their own, and any other tag.
* `Transport` — the fields, read from the stream settings by `Transport.ofStream`; a mistyped field
  reads as an absent one.
* `Transport.writeQuery` and `Transport.writeDocument` — the fields in a link's query and in a vmess
  document, where several networks share the keys `type` and `path`.
-/

set_option autoImplicit false
namespace ProxyFeed

/-- A network, named by a tag. -/
inductive Network where
  | tcp
  | kcp
  | ws
  | grpc
  | httpUpgrade
  | xhttp
  | other (tag : String)
deriving DecidableEq, Repr

namespace Network

/-- The network with a tag. -/
def ofTag (tag : String) : Network :=
  if tag = "tcp" then .tcp
  else if tag = "kcp" then .kcp
  else if tag = "ws" then .ws
  else if tag = "grpc" then .grpc
  else if tag = "httpupgrade" then .httpUpgrade
  else if tag = "xhttp" then .xhttp
  else .other tag

/-- The tag of a network. -/
def tag : Network → String
  | .tcp => "tcp"
  | .kcp => "kcp"
  | .ws => "ws"
  | .grpc => "grpc"
  | .httpUpgrade => "httpupgrade"
  | .xhttp => "xhttp"
  | .other tag => tag

/-- The network of stream settings; tcp if they name none. -/
def ofStream (stream : Json) : Network := ((stream.text? "network").map ofTag).getD .tcp

/-- Is it a network with fields of its own? -/
def isKnown : Network → Bool
  | .other _ => false
  | _ => true

/-- The block of the stream settings that holds a network's fields. -/
def settingsKey? : Network → Option String
  | .tcp => some "tcpSettings"
  | .kcp => some "kcpSettings"
  | .ws => some "wsSettings"
  | .grpc => some "grpcSettings"
  | .httpUpgrade => some "httpupgradeSettings"
  | .xhttp => some "xhttpSettings"
  | .other _ => none

end Network

/-- The transport fields of a link. -/
structure Transport where
  headerType : Option String := none
  path : Option String := none
  host : Option String := none
  seed : Option String := none
  serviceName : Option String := none
  authority : Option String := none
  multi : Bool := false
deriving DecidableEq, Repr, Inhabited

namespace Transport

/-- The header type that disguises tcp as HTTP. -/
def httpHeader : String := "http"

/-- The fields of a tcp block: only an HTTP disguise has a path and a host. -/
def ofTcp (block : Json) : Transport :=
  match block.get? "header" with
  | none => {}
  | some header =>
    let headerType := header.text? "type"
    match header.get? "request" with
    | some request =>
      if headerType = some httpHeader then
        { headerType
          path := (((request.get? "path").bind Json.arr?).bind List.head?).bind Json.str?
          host := Json.hostHeader (request.get? "headers") }
      else { headerType }
    | none => { headerType }

/-- The fields of a kcp block. -/
def ofKcp (block : Json) : Transport :=
  { headerType := (block.get? "header").bind (·.text? "type"), seed := block.text? "seed" }

/-- The fields of a WebSocket block: its own host, or else the one among its headers. -/
def ofWs (block : Json) : Transport :=
  { path := block.text? "path"
    host := (block.nonEmpty? "host").orElse fun _ => Json.hostHeader (block.get? "headers") }

/-- The fields of a gRPC block. -/
def ofGrpc (block : Json) : Transport :=
  { serviceName := block.text? "serviceName"
    authority := block.text? "authority"
    multi := (block.get? "multiMode").bind Json.bool? = some true }

/-- The fields of an httpupgrade or xhttp block. -/
def ofHttp (block : Json) : Transport :=
  { path := block.text? "path", host := block.nonEmpty? "host" }

/-- The fields of the block of a network. -/
def ofBlock (network : Network) (block : Json) : Transport :=
  match network with
  | .tcp => ofTcp block
  | .kcp => ofKcp block
  | .ws => ofWs block
  | .grpc => ofGrpc block
  | .httpUpgrade => ofHttp block
  | .xhttp => ofHttp block
  | .other _ => {}

/-- The fields in stream settings for a network. -/
def ofStream (stream : Json) (network : Network) : Transport :=
  match network.settingsKey?.bind fun key => stream.get? key with
  | some block => ofBlock network block
  | none => {}

/-- The fields in the query of a link. -/
def writeQuery (t : Transport) (network : Network) (out : ParamSet) : ParamSet :=
  match network with
  | .tcp =>
    if t.headerType = some httpHeader then
      ((out.setText? "path" t.path).setText? "host" t.host).setText "headerType" httpHeader
    else out
  | .kcp => (out.setText? "headerType" t.headerType).setText? "seed" t.seed
  | .ws | .httpUpgrade | .xhttp => (out.setText? "path" t.path).setText? "host" t.host
  | .grpc =>
    let out := (out.setText? "serviceName" t.serviceName).setText? "authority" t.authority
    if t.multi then out.setText "mode" "multi" else out
  | .other _ => out

/-- The fields in a vmess document. -/
def writeDocument (t : Transport) (network : Network) (out : ParamSet) : ParamSet :=
  match network with
  | .tcp =>
    ((out.setText? "type" t.headerType).setText? "path" t.path).setText? "host" t.host
  | .kcp => (out.setText? "type" t.headerType).setText? "path" t.seed
  | .ws | .httpUpgrade | .xhttp => (out.setText? "path" t.path).setText? "host" t.host
  | .grpc =>
    let out := (out.setText? "path" t.serviceName).setText? "authority" t.authority
    if t.multi then out.setText "type" "multi" else out
  | .other _ => out

end Transport
end ProxyFeed
