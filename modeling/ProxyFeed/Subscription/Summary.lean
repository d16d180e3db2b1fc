import ProxyFeed.Inbound.Traffic
import ProxyFeed.Number.Saturating

/-!
# The traffic of a subscription

The counters of all its clients folded into one record.

## What is here

* `TrafficSummary` — the running record; `TrafficSummary.add` takes in one client.
* `TrafficSummary.header` — the text sent to the subscriber.

The first client sets the record; each later one adds to it.  A client without an allowance leaves
the whole without one, and clients that expire at different times leave it without an expiry.
-/

set_option autoImplicit false
namespace ProxyFeed

open Saturating

/-- The traffic of the clients seen so far.  A `total` of zero means no limit, an `expiryTime` of
zero that there is none, or no common one. -/
structure TrafficSummary where
  up : Int64 := 0
  down : Int64 := 0
  total : Int64 := 0
  expiryTime : Int64 := 0
  /-- Has any client been taken in? -/
  seeded : Bool := false
deriving DecidableEq, Repr, Inhabited

namespace TrafficSummary

/-- The summary of no clients. -/
def empty : TrafficSummary := {}

/-- Takes in the counters of one client. -/
def add (s : TrafficSummary) (t : Traffic) : TrafficSummary :=
  if s.seeded then
    { s with
      up := satAdd s.up t.up
      down := satAdd s.down t.down
      total := if s.total = 0 ∨ t.total = 0 then 0 else satAdd s.total t.total
      expiryTime := if t.expiryTime = s.expiryTime then s.expiryTime else 0 }
  else
    { up := t.up
      down := t.down
      total := t.total
      expiryTime := if 0 < t.expiryTime then t.expiryTime else 0
      seeded := true }

/-- The summary of a list of clients. -/
def ofList (ts : List Traffic) : TrafficSummary := ts.foldl add empty

/-- The text sent to the subscriber; the expiry is in whole seconds. -/
def header (s : TrafficSummary) : String :=
  "upload=" ++ toString s.up.toInt ++ "; download=" ++ toString s.down.toInt ++ "; total=" ++
    toString s.total.toInt ++ "; expire=" ++ toString (s.expiryTime.toInt.tdiv 1000)

end TrafficSummary
end ProxyFeed
