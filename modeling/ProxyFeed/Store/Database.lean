import ProxyFeed.Cache.Basic
import ProxyFeed.Store.Basic
import ProxyFeed.Store.JsonColumn

/-!
# The database

Inbounds, traffic and converted documents in tables.

## What is here

* `Database` — the tables.  Inbounds and traffic are kept by increasing identifier; e-mails are
  unique in the traffic table, and every traffic row belongs to an inbound.
* `Database.insertInbound`, `Database.insertTraffic`, … — the writes; `none` where a constraint
  forbids one.
* `Database.store` — the inbounds as a store.  Rows are visited by increasing identifier, and the
  whole query fails when a settings column that it reads is not JSON.
-/

set_option autoImplicit false
namespace ProxyFeed

/-- The tables. -/
structure Database where
  /-- The inbounds, without their traffic. -/
  inbounds : List Inbound := []
  traffic : List Traffic := []
  /-- The greatest identifier a traffic row ever had. -/
  lastTrafficId : Int64 := 0
  cache : CacheTable := {}
deriving Repr, Inhabited

namespace Database

/-! ## Writes -/

/-- Adds an inbound without its traffic, unless its identifier is taken. -/
def insertInbound (db : Database) (i : Inbound) : Option Database :=
  if db.inbounds.any (·.id = i.id) then none
  else
    let (before, after) := db.inbounds.partition (·.id < i.id)
    some { db with inbounds := before ++ { i with clientStats := [] } :: after }

/-- Adds a traffic row, unless its identifier or e-mail is taken or its inbound does not exist. -/
def insertTraffic (db : Database) (t : Traffic) : Option Database :=
  if db.traffic.any (fun r => r.id = t.id ∨ r.email = t.email) ∨
      !db.inbounds.any (·.id = t.inboundId) then none
  else
    let (before, after) := db.traffic.partition (·.id < t.id)
    some { db with
      traffic := before ++ t :: after
      lastTrafficId := if db.lastTrafficId < t.id then t.id else db.lastTrafficId }

/-- Adds a traffic row under the next identifier. -/
def appendTraffic (db : Database) (t : Traffic) : Option Database :=
  if db.lastTrafficId = Int64.maxValue then none
  else db.insertTraffic { t with id := db.lastTrafficId + 1 }

/-- Adds traffic rows one by one up to the first that is refused; tells whether all were added. -/
def insertAllTraffic (db : Database) : List Traffic → Database × Bool
  | [] => (db, true)
  | t :: ts =>
    match db.insertTraffic t with
    | some db => insertAllTraffic db ts
    | none => (db, false)

/-- Adds an inbound and its traffic; tells whether everything was added. -/
def addInbound (db : Database) (i : Inbound) : Database × Bool :=
  match db.insertInbound i with
  | some db => db.insertAllTraffic (i.clientStats.map fun t => { t with inboundId := i.id })
  | none => (db, false)

/-- Removes an inbound and its traffic. -/
def deleteInbound (db : Database) (id : Int64) : Database :=
  { db with
    inbounds := db.inbounds.filter (·.id ≠ id)
    traffic := db.traffic.filter (·.inboundId ≠ id) }

/-- Replaces the settings of an inbound. -/
def setSettings (db : Database) (id : Int64) (settings : String) : Database :=
  { db with inbounds := db.inbounds.map fun i => if i.id = id then { i with settings } else i }

/-! ## Queries -/

/-- The traffic of an inbound. -/
def clientStats (db : Database) (id : Int64) : List Traffic :=
  db.traffic.filter (·.inboundId = id)

/-- An inbound with its traffic. -/
def withStats (db : Database) (i : Inbound) : Inbound :=
  { i with clientStats := db.clientStats i.id }

/-- The rows that pass a test, which looks at every row. -/
def selectAll (test : Inbound → Except MalformedJson Bool) :
    List Inbound → Except MalformedJson (List Inbound)
  | [] => .ok []
  | i :: rest => do
    let passes ← test i
    let more ← selectAll test rest
    return if passes then i :: more else more

/-- The first row that passes a test, which looks at no row after it. -/
def selectFirst (test : Inbound → Except MalformedJson Bool) :
    List Inbound → Except MalformedJson (Option Inbound)
  | [] => .ok none
  | i :: rest => do
    if ← test i then return some i else selectFirst test rest

/-- The answer of a query, or its failure. -/
def answer {α : Type} (context : String) : Except MalformedJson α → Except Fault α
  | .ok a => .ok a
  | .error .malformed =>
    .error ⟨context,
      ["error returned from database: (code: 1) malformed JSON", "(code: 1) malformed JSON"]⟩

/-- The linkable inbounds with a client of a subscription. -/
def bySubId (db : Database) (subId : String) : Except MalformedJson (List Inbound) :=
  selectAll (fun i => do JsonColumn.anyOf "subId" subId (← JsonColumn.clients i.settings))
    (db.inbounds.filter Inbound.isLinkable)

/-- The first linkable inbound with a client of an e-mail. -/
def byClientEmail (db : Database) (email : String) : Except MalformedJson (Option Inbound) :=
  selectFirst (fun i => do JsonColumn.firstOf "email" email (← JsonColumn.clients i.settings))
    (db.inbounds.filter Inbound.isLinkable)

/-- The first inbound that declares a fallback with a destination. -/
def fallbackMaster (db : Database) (dest : String) : Except MalformedJson (Option Inbound) :=
  selectFirst (fun i => do JsonColumn.firstOf "dest" dest (← JsonColumn.fallbacks i.settings))
    db.inbounds

/-- The inbounds as a store; a fallback master comes without its traffic. -/
def store (db : Database) : InboundStore where
  bySubId subId :=
    (answer "Failed to fetch inbounds by subscription id" (db.bySubId subId)).map
      (·.map db.withStats)
  byClientEmail email :=
    (answer "Failed to fetch inbound by client email" (db.byClientEmail email)).map
      (·.map db.withStats)
  fallbackMaster dest :=
    answer "Failed to fetch fallback master inbound" (db.fallbackMaster dest)

end Database
end ProxyFeed
