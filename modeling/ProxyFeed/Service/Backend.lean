import ProxyFeed.Store.Database
import ProxyFeed.Store.Memory

/-!
# Backends

A backend keeps both the inbounds and the converted documents: in memory, or in a database.

## What is here

* `Backend` — the two kinds, and the changes made to them from outside.
* `Backend.inboundStore` and `Backend.cacheStore` — a backend as the stores of the services.
* `Operation` and `Outage` — operations that are down; a store with an outage fails exactly there.
-/

set_option autoImplicit false
namespace ProxyFeed

/-- Where inbounds and documents are kept. -/
inductive Backend where
  | memory (inbounds : List Inbound) (cache : MemoryCache)
  | database (db : Database)
deriving Repr

namespace Backend

/-- A backend as a store of inbounds. -/
def inboundStore : Backend → InboundStore
  | .memory inbounds _ => MemoryInbounds.store inbounds
  | .database db => db.store

/-- The cache of backends. -/
def cacheStore : CacheStore Backend where
  find?
    | .memory _ cache, email => MemoryCache.store.find? cache email
    | .database db, email => CacheTable.store.find? db.cache email
  insert
    | .memory inbounds cache, e =>
      (MemoryCache.store.insert cache e).map fun r => (r.1, .memory inbounds r.2)
    | .database db, e =>
      (CacheTable.store.insert db.cache e).map fun r => (r.1, .database { db with cache := r.2 })
  update
    | .memory inbounds cache, e =>
      (MemoryCache.store.update cache e).map (.memory inbounds)
    | .database db, e =>
      (CacheTable.store.update db.cache e).map fun cache => .database { db with cache }

/-- The entries.  Both kinds number them as they come and overwrite them in place, so they stand by
increasing identifier. -/
def entries : Backend → List CacheEntry
  | .memory _ cache => cache.entries
  | .database db => db.cache.rows

/-- Adds an inbound with its traffic; tells whether everything was added. -/
def addInbound (b : Backend) (i : Inbound) : Backend × Bool :=
  match b with
  | .memory inbounds cache => (.memory (inbounds ++ [i]) cache, true)
  | .database db =>
    let (db, added) := db.addInbound i
    (.database db, added)

/-- Removes an inbound with its traffic. -/
def deleteInbound (b : Backend) (id : Int64) : Backend :=
  match b with
  | .memory inbounds cache => .memory (inbounds.filter (·.id ≠ id)) cache
  | .database db => .database (db.deleteInbound id)

/-- Replaces the settings of the first of a list of inbounds that has an identifier. -/
def setFirst (id : Int64) (settings : String) : List Inbound → List Inbound
  | [] => []
  | i :: rest => if i.id = id then { i with settings } :: rest else i :: setFirst id settings rest

/-- Replaces the settings of an inbound. -/
def setSettings (b : Backend) (id : Int64) (settings : String) : Backend :=
  match b with
  | .memory inbounds cache => .memory (setFirst id settings inbounds) cache
  | .database db => .database (db.setSettings id settings)

/-- Adds a traffic record under a new identifier; `none` if it is refused, or there is no table of
them. -/
def addTraffic (b : Backend) (t : Traffic) : Option Backend :=
  match b with
  | .memory _ _ => none
  | .database db => (db.appendTraffic t).map .database

/-- The traffic of an inbound. -/
def clientStats (b : Backend) (id : Int64) : List Traffic :=
  match b with
  | .memory inbounds _ => ((inbounds.find? (·.id = id)).map (·.clientStats)).getD []
  | .database db => db.clientStats id

end Backend

/-! ## Outages -/

/-- An operation that can be down. -/
inductive Operation where
  | bySubId
  | byEmail
  | fallbackMaster
  | cacheGet
  | cacheInsert
  | cacheUpdate
  | convert
deriving DecidableEq, Repr

namespace Operation

/-- All of them. -/
def all : List Operation :=
  [.bySubId, .byEmail, .fallbackMaster, .cacheGet, .cacheInsert, .cacheUpdate, .convert]

/-- The name of an operation. -/
def name : Operation → String
  | .bySubId => "by_sub_id"
  | .byEmail => "by_email"
  | .fallbackMaster => "fallback_master"
  | .cacheGet => "cache_get"
  | .cacheInsert => "cache_insert"
  | .cacheUpdate => "cache_update"
  | .convert => "convert"

/-- The operation with a name. -/
def ofName? (name : String) : Option Operation := all.find? (·.name = name)

end Operation

/-- The operations that are down. -/
structure Outage where
  down : List Operation := []
deriving DecidableEq, Repr

namespace Outage

/-- A result, unless its operation is down. -/
def guard {α : Type} (o : Outage) (op : Operation) (result : Except Fault α) : Except Fault α :=
  if o.down.contains op then .error ⟨op.name ++ " offline", []⟩ else result

/-- A store of inbounds during an outage. -/
def inbounds (o : Outage) (store : InboundStore) : InboundStore where
  bySubId subId := o.guard .bySubId (store.bySubId subId)
  byClientEmail email := o.guard .byEmail (store.byClientEmail email)
  fallbackMaster dest := o.guard .fallbackMaster (store.fallbackMaster dest)

/-- A cache during an outage. -/
def cache {κ : Type} (o : Outage) (store : CacheStore κ) : CacheStore κ where
  find? state email := o.guard .cacheGet (store.find? state email)
  insert state e := o.guard .cacheInsert (store.insert state e)
  update state e := o.guard .cacheUpdate (store.update state e)

/-- A converter during an outage. -/
def converter (o : Outage) (convert : String → Except Fault String) (link : String) :
    Except Fault String :=
  o.guard .convert (convert link)

end Outage
end ProxyFeed
