import ProxyFeed.Fallback
import ProxyFeed.Link.Basic
import ProxyFeed.Subscription.Summary

/-!
# Subscriptions

A subscription is the links of every enabled client that carries its identifier, over all inbounds.

## What is here

* `Subscription.members` — the clients of an inbound that belong to a subscription.
* `Subscription.block` — what one inbound contributes: links, and the traffic of its members.
* `Subscription.fetch` — the links of a subscription, and its traffic header.
-/

set_option autoImplicit false
namespace ProxyFeed

/-- How links of subscriptions are named. -/
structure SubscriptionOptions where
  remarkModel : String
  showInfo : Bool
deriving DecidableEq, Repr

namespace Subscription

/-- What an inbound contributes: the links of its members, and their traffic. -/
structure Block where
  links : List String
  traffic : List Traffic
deriving DecidableEq, Repr

/-- The enabled clients of a subscription. -/
def members (subId : String) (clients : List Client) : List Client :=
  clients.filter fun c => c.enable && c.subId = subId

/-- What links take from a request to a host. -/
def context (options : SubscriptionOptions) (host : String) : LinkContext :=
  ⟨host, none, options.remarkModel, options.showInfo⟩

/-- The traffic of a client; one without a record counts as having used nothing. -/
def trafficOf (inbound : Inbound) (client : Client) : Traffic :=
  (inbound.trafficFor client.email).getD {}

/-- What one inbound contributes: nothing if its clients cannot be read.  The links are those of the
inbound as seen from outside, from a source of its own. -/
def block {ρ : Type} [SpiderSource ρ] (store : InboundStore) (ctx : LinkContext) (subId : String)
    (inbound : Inbound) (source : ρ) : Block :=
  match inbound.clients? with
  | none => ⟨[], []⟩
  | some clients =>
    let outside := Fallback.resolve store inbound
    let chosen := members subId clients
    let texts := (Link.generateAll ctx outside clients (chosen.map (·.email)) source).1
    ⟨texts.filter (· ≠ ""), chosen.map (trafficOf outside)⟩

/-- What each of a list of inbounds contributes, the `n`-th with the `n`-th source. -/
def blocks {ρ : Type} [SpiderSource ρ] (store : InboundStore) (ctx : LinkContext) (subId : String)
    (sources : Nat → ρ) : Nat → List Inbound → List Block
  | _, [] => []
  | n, i :: rest =>
    block store ctx subId i (sources n) :: blocks store ctx subId sources (n + 1) rest

/-- The links of a subscription for a client that used `host`, and its traffic header. -/
def fetch {ρ : Type} [SpiderSource ρ] (store : InboundStore) (options : SubscriptionOptions)
    (sources : Nat → ρ) (subId host : String) : Except Failure (List String × String) :=
  match store.bySubId subId with
  | .error fault => .error (.store fault)
  | .ok [] => .error (.notFound ("subscription " ++ subId))
  | .ok inbounds =>
    let bs := blocks store (context options host) subId sources 0 inbounds
    .ok (bs.flatMap (·.links), (TrafficSummary.ofList (bs.flatMap (·.traffic))).header)

end Subscription
end ProxyFeed
