import ProxyFeed.Inbound.Client
import ProxyFeed.Inbound.Traffic

/-!
# Inbounds

An inbound is a listener of the proxy server: where it listens, which protocol it speaks, its
settings as JSON texts, and the traffic of its clients.

## What is here

* `Protocol` — the protocols a share link can be made for.
* `Inbound` — the record, its clients, and its reader and writer.
-/

set_option autoImplicit false
namespace ProxyFeed

/-- The protocols a share link can be made for. -/
inductive Protocol where
  | vmess
  | vless
  | trojan
  | shadowsocks
deriving DecidableEq, Repr

namespace Protocol

/-- All of them, in their fixed order. -/
def all : List Protocol := [.vmess, .vless, .trojan, .shadowsocks]

/-- The tag of a protocol in an inbound. -/
def tag : Protocol → String
  | .vmess => "vmess"
  | .vless => "vless"
  | .trojan => "trojan"
  | .shadowsocks => "shadowsocks"

/-- The protocol with a tag. -/
def ofTag? (tag : String) : Option Protocol := all.find? (·.tag = tag)

end Protocol

/-- A listener.  The settings are texts, read when they are needed: their shape depends on the
protocol and the network. -/
structure Inbound where
  id : Int64 := 0
  remark : String := ""
  enable : Bool := false
  listen : String := ""
  port : Int64 := 0
  protocol : String := ""
  settings : String := ""
  streamSettings : String := ""
  clientStats : List Traffic := []
deriving DecidableEq, Repr, Inhabited

namespace Inbound

/-- The protocol, if links can be made for it. -/
def protocol? (i : Inbound) : Option Protocol := Protocol.ofTag? i.protocol

/-- Enabled, and of a protocol that links can be made for. -/
def isLinkable (i : Inbound) : Bool := i.enable && i.protocol?.isSome

/-- The clients in the settings; `none` if the settings cannot be read. -/
def clients? (i : Inbound) : Option (List Client) := Client.listOfText? i.settings

/-- Does the inbound listen on an abstract socket (`@name`)?  It is then reached only as the
fallback target of another one. -/
def isFallbackListener (i : Inbound) : Bool := i.listen.toList.head? = some '@'

/-- The first traffic record with an e-mail. -/
def trafficFor (i : Inbound) (email : String) : Option Traffic :=
  i.clientStats.find? (·.email = email)

/-- The fields of a record, in order. -/
def fieldNames : List String :=
  ["id", "remark", "enable", "listen", "port", "protocol", "settings", "stream_settings",
    "client_stats"]

/-- The values of the fields, in order. -/
def fieldValues (i : Inbound) : List Json :=
  [.ofInt i.id.toInt, .str i.remark, .bool i.enable, .str i.listen, .ofInt i.port.toInt,
    .str i.protocol, .str i.settings, .str i.streamSettings,
    .arr (i.clientStats.map Traffic.toJson)]

/-- A record as JSON. -/
def toJson (i : Inbound) : Json := .obj (fieldNames.zip i.fieldValues)

/-- Reads a record; only the traffic may be absent. -/
def ofRaw? (v : RawJson) : Option Inbound := do
  let [id, remark, enable, listen, port, protocol, settings, streamSettings, clientStats] ←
    v.fields? fieldNames | none
  return {
    id := ← RawJson.required RawJson.int64? id
    remark := ← RawJson.required RawJson.text? remark
    enable := ← RawJson.required RawJson.bool? enable
    listen := ← RawJson.required RawJson.text? listen
    port := ← RawJson.required RawJson.int64? port
    protocol := ← RawJson.required RawJson.text? protocol
    settings := ← RawJson.required RawJson.text? settings
    streamSettings := ← RawJson.required RawJson.text? streamSettings
    clientStats := ← RawJson.orElse [] (RawJson.list? Traffic.ofRaw?) clientStats }

end Inbound
end ProxyFeed
