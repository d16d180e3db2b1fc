import ProxyFeed.Json.Record

/-!
# Clients

The users of a listener, as its settings list them.
-/

set_option autoImplicit false
namespace ProxyFeed

/-- A user of a listener.  `id` is the credential of vmess and vless, `password` that of trojan and
shadowsocks; `subId` names the subscription the user belongs to. -/
structure Client where
  id : String := ""
  password : String := ""
  email : String := ""
  security : String := ""
  enable : Bool := false
  flow : String := ""
  subId : String := ""
deriving DecidableEq, Repr, Inhabited

namespace Client

/-- The fields of a record, in order. -/
def fieldNames : List String := ["id", "password", "email", "security", "enable", "flow", "subId"]

/-- The values of the fields, in order. -/
def fieldValues (c : Client) : List Json :=
  [.str c.id, .str c.password, .str c.email, .str c.security, .bool c.enable, .str c.flow,
    .str c.subId]

/-- A record as JSON. -/
def toJson (c : Client) : Json := .obj (fieldNames.zip c.fieldValues)

/-- Reads a record; an absent field is empty, or false. -/
def ofRaw? (v : RawJson) : Option Client := do
  let [id, password, email, security, enable, flow, subId] ← v.fields? fieldNames | none
  return {
    id := ← RawJson.orElse "" RawJson.text? id
    password := ← RawJson.orElse "" RawJson.text? password
    email := ← RawJson.orElse "" RawJson.text? email
    security := ← RawJson.orElse "" RawJson.text? security
    enable := ← RawJson.orElse false RawJson.bool? enable
    flow := ← RawJson.orElse "" RawJson.text? flow
    subId := ← RawJson.orElse "" RawJson.text? subId }

/-- Reads the clients of a settings tree: none if it has no `clients`, and nothing if any of them is
malformed. -/
def listOfRaw? (settings : RawJson) : Option (List Client) := do
  let [clients] ← settings.fields? ["clients"] | none
  RawJson.orElse [] (RawJson.list? ofRaw?) clients

/-- Reads the clients of a settings text. -/
def listOfText? (settings : String) : Option (List Client) :=
  (RawJson.parse? settings).bind listOfRaw?

end Client
end ProxyFeed
