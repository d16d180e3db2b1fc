import ProxyFeed.Store.Basic

/-!
# Inbounds in memory

A list of inbounds as a store.  Its lookups cannot fail, and read the settings of each inbound as
the rest of the program does.

An inbound whose clients cannot be read still belongs to every subscription (the subscription passes
it over later), but to no e-mail.
-/

set_option autoImplicit false
namespace ProxyFeed
namespace MemoryInbounds

/-- The linkable inbounds with a client of a subscription. -/
def bySubId (inbounds : List Inbound) (subId : String) : List Inbound :=
  (inbounds.filter Inbound.isLinkable).filter fun i =>
    match i.clients? with
    | some clients => clients.any (·.subId = subId)
    | none => true

/-- The first linkable inbound with a client of an e-mail. -/
def byClientEmail (inbounds : List Inbound) (email : String) : Option Inbound :=
  (inbounds.filter Inbound.isLinkable).find? fun i =>
    match i.clients? with
    | some clients => clients.any (·.email = email)
    | none => false

/-- The fallbacks that settings declare. -/
def fallbacks (settings : String) : List Json :=
  (((Json.parse? settings).bind (·.get? "fallbacks")).bind Json.arr?).getD []

/-- The first inbound that declares a fallback with a destination. -/
def fallbackMaster (inbounds : List Inbound) (dest : String) : Option Inbound :=
  inbounds.find? fun i => (fallbacks i.settings).any fun f => f.text? "dest" = some dest

/-- A list of inbounds as a store. -/
def store (inbounds : List Inbound) : InboundStore where
  bySubId subId := .ok (bySubId inbounds subId)
  byClientEmail email := .ok (byClientEmail inbounds email)
  fallbackMaster dest := .ok (fallbackMaster inbounds dest)

end MemoryInbounds
end ProxyFeed
