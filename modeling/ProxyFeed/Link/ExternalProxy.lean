import ProxyFeed.Json.Record

/-!
# External proxies

Other public entry points, such as relays, advertised for an inbound in its stream settings.

## What is here

* `ExternalProxy` — one entry point; `ExternalProxy.forcedSecurity` is the layer it imposes.
* `ExternalProxy.listOfStream` — the entry points of stream settings; malformed ones are passed
  over.
-/

set_option autoImplicit false
namespace ProxyFeed

/-- An entry point that stands in for an inbound. -/
structure ExternalProxy where
  forceTls : String
  dest : String
  port : UInt16
  remark : String
deriving DecidableEq, Repr

namespace ExternalProxy

/-- The layer an entry point imposes, if it does not keep the inbound's. -/
def forcedSecurity (p : ExternalProxy) : Option String :=
  if p.forceTls = "" ∨ p.forceTls = "same" then none else some p.forceTls

/-- The fields of a record, in order. -/
def fieldNames : List String := ["forceTls", "dest", "port", "remark"]

/-- Reads a record; destination and port must be there. -/
def ofRaw? (v : RawJson) : Option ExternalProxy := do
  let [forceTls, dest, port, remark] ← v.fields? fieldNames | none
  return {
    forceTls := ← RawJson.orElse "" RawJson.text? forceTls
    dest := ← RawJson.required RawJson.text? dest
    port := ← RawJson.required RawJson.uint16? port
    remark := ← RawJson.orElse "" RawJson.text? remark }

/-- The entry points of stream settings. -/
def listOfStream (stream : Json) : List ExternalProxy :=
  (((stream.get? "externalProxy").bind Json.arr?).getD []).filterMap fun record => ofRaw? record.raw

end ExternalProxy
end ProxyFeed
