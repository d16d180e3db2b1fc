import ProxyFeed.Failure
import ProxyFeed.Inbound.Basic

/-!
# Inbound stores

Where inbounds are looked up.  A store answers three questions, and each lookup may fail.
-/

set_option autoImplicit false
namespace ProxyFeed

/-- A snapshot of the stored inbounds, as seen through its three lookups. -/
structure InboundStore where
  /-- The linkable inbounds with a client of a subscription. -/
  bySubId : String → Except Fault (List Inbound)
  /-- The first linkable inbound with a client of an e-mail. -/
  byClientEmail : String → Except Fault (Option Inbound)
  /-- The first inbound that declares a fallback with a destination. -/
  fallbackMaster : String → Except Fault (Option Inbound)

end ProxyFeed
