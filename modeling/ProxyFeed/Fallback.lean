import ProxyFeed.Json.Raw
import ProxyFeed.Json.Writer
import ProxyFeed.Store.Basic

/-!
# Fallbacks

A fallback inbound listens on an abstract socket and is reached through its master, the inbound that
forwards connections to it.  Links for it therefore carry the master's endpoint and security layer.

## What is here

* `Fallback.inherit` — the members of a stream object with the master's in the inherited keys.
* `Fallback.merge` — the same on texts.
* `Fallback.resolve` — an inbound as seen from outside: through its master if it has one, and as it
  is in every other case.
-/

set_option autoImplicit false
namespace ProxyFeed

/-- Why two stream texts cannot be merged. -/
inductive MergeError where
  | fallbackNotJson
  | masterNotJson
  | fallbackNotObject
deriving DecidableEq, Repr

namespace MergeError

/-- The message of an error. -/
def message : MergeError → String
  | .fallbackNotJson => "Fallback stream settings are not JSON"
  | .masterNotJson => "Master stream settings are not JSON"
  | .fallbackNotObject => "Fallback stream settings are not an object"

end MergeError

namespace Fallback

/-- The keys a fallback takes from its master. -/
def inheritedKeys : List String := ["security", "tlsSettings", "externalProxy"]

/-- Takes one key from the master: its value, or its absence. -/
def inheritKey (master : Json) (ms : Members) (key : String) : Members :=
  match master.get? key with
  | some v => ms.set key v
  | none => ms.erase key

/-- The members of a stream object with the master's in the inherited keys. -/
def inherit (ms : Members) (master : Json) : Members := inheritedKeys.foldl (inheritKey master) ms

/-- Merges two stream texts. -/
def merge (stream master : String) : Except MergeError String :=
  match Json.parse? stream, Json.parse? master with
  | none, _ => .error .fallbackNotJson
  | some _, none => .error .masterNotJson
  | some (.obj ms), some m => .ok (Json.obj (inherit ms m)).compact
  | some _, some _ => .error .fallbackNotObject

/-- An inbound seen through its master. -/
def through (master i : Inbound) (streamSettings : String) : Inbound :=
  { i with streamSettings, listen := master.listen, port := master.port }

/-- The inbound as seen through its master, if there is one and the two can be merged. -/
def resolve? (store : InboundStore) (i : Inbound) : Option Inbound :=
  if i.isFallbackListener then
    match store.fallbackMaster i.listen with
    | .ok (some master) =>
      match merge i.streamSettings master.streamSettings with
      | .ok text => some (through master i text)
      | .error _ => none
    | _ => none
  else none

/-- The inbound as seen from outside. -/
def resolve (store : InboundStore) (i : Inbound) : Inbound := (resolve? store i).getD i

end Fallback
end ProxyFeed
