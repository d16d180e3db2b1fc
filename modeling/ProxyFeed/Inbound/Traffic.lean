import ProxyFeed.Json.Record

/-!
# Traffic records

The counters of one client on one listener.
-/

set_option autoImplicit false
namespace ProxyFeed

/-- The counters of one client.  `total` is its allowance, zero if there is none; `expiryTime` is in
milliseconds since 1970, zero if the client does not expire. -/
structure Traffic where
  id : Int64 := 0
  inboundId : Int64 := 0
  enable : Bool := false
  email : String := ""
  up : Int64 := 0
  down : Int64 := 0
  total : Int64 := 0
  expiryTime : Int64 := 0
deriving DecidableEq, Repr, Inhabited

namespace Traffic

/-- The fields of a record, in order. -/
def fieldNames : List String :=
  ["id", "inbound_id", "enable", "email", "up", "down", "total", "expiry_time"]

/-- The values of the fields, in order. -/
def fieldValues (t : Traffic) : List Json :=
  [.ofInt t.id.toInt, .ofInt t.inboundId.toInt, .bool t.enable, .str t.email, .ofInt t.up.toInt,
    .ofInt t.down.toInt, .ofInt t.total.toInt, .ofInt t.expiryTime.toInt]

/-- A record as JSON. -/
def toJson (t : Traffic) : Json := .obj (fieldNames.zip t.fieldValues)

/-- Reads a record; every field must be there. -/
def ofRaw? (v : RawJson) : Option Traffic := do
  let [id, inboundId, enable, email, up, down, total, expiryTime] ← v.fields? fieldNames | none
  return {
    id := ← RawJson.required RawJson.int64? id
    inboundId := ← RawJson.required RawJson.int64? inboundId
    enable := ← RawJson.required RawJson.bool? enable
    email := ← RawJson.required RawJson.text? email
    up := ← RawJson.required RawJson.int64? up
    down := ← RawJson.required RawJson.int64? down
    total := ← RawJson.required RawJson.int64? total
    expiryTime := ← RawJson.required RawJson.int64? expiryTime }

end Traffic
end ProxyFeed
