import ProxyFeed.Failure
import ProxyFeed.Json.Record

/-!
# The cache of converted documents

One entry for each e-mail: the fingerprint of the link a document was made from, and the document.

## What is here

* `CacheEntry` — an entry, with its reader and writer.
* `CacheStore` — the three operations of a cache on a state of its own.
* `MemoryCache` — a list of entries, which trusts its callers to keep e-mails apart.
* `CacheTable` — a database table: e-mails are unique, and identifiers are never used twice.
-/

set_option autoImplicit false
namespace ProxyFeed

/-- A converted document. -/
structure CacheEntry where
  id : Int64 := 0
  email : String := ""
  urlFingerprint : String := ""
  yamlContent : String := ""
  createdAt : Int64 := 0
  updatedAt : Int64 := 0
deriving DecidableEq, Repr, Inhabited

namespace CacheEntry

/-- The fields of a record, in order. -/
def fieldNames : List String :=
  ["id", "email", "url_fingerprint", "yaml_content", "created_at", "updated_at"]

/-- The values of the fields, in order. -/
def fieldValues (e : CacheEntry) : List Json :=
  [.ofInt e.id.toInt, .str e.email, .str e.urlFingerprint, .str e.yamlContent,
    .ofInt e.createdAt.toInt, .ofInt e.updatedAt.toInt]

/-- A record as JSON. -/
def toJson (e : CacheEntry) : Json := .obj (fieldNames.zip e.fieldValues)

/-- Reads a record; every field must be there. -/
def ofRaw? (v : RawJson) : Option CacheEntry := do
  let [id, email, urlFingerprint, yamlContent, createdAt, updatedAt] ← v.fields? fieldNames | none
  return {
    id := ← RawJson.required RawJson.int64? id
    email := ← RawJson.required RawJson.text? email
    urlFingerprint := ← RawJson.required RawJson.text? urlFingerprint
    yamlContent := ← RawJson.required RawJson.text? yamlContent
    createdAt := ← RawJson.required RawJson.int64? createdAt
    updatedAt := ← RawJson.required RawJson.int64? updatedAt }

end CacheEntry

/-- A cache: its operations on a state. -/
structure CacheStore (κ : Type) where
  /-- The entry of an e-mail. -/
  find? : κ → String → Except Fault (Option CacheEntry)
  /-- Adds an entry under a new identifier, whatever identifier it carries. -/
  insert : κ → CacheEntry → Except Fault (Int64 × κ)
  /-- Overwrites the entry with the same identifier. -/
  update : κ → CacheEntry → Except Fault κ

/-! ## In memory -/

/-- Entries in memory. -/
structure MemoryCache where
  entries : List CacheEntry := []
  /-- Refuses every write. -/
  readOnly : Bool := false
deriving DecidableEq, Repr, Inhabited

namespace MemoryCache

/-- Replaces the first entry that has the identifier of `e`. -/
def replace (e : CacheEntry) : List CacheEntry → List CacheEntry
  | [] => []
  | x :: xs => if x.id = e.id then e :: xs else x :: replace e xs

/-- The operations. -/
def store : CacheStore MemoryCache where
  find? c email := .ok (c.entries.find? (·.email = email))
  insert c e :=
    if c.readOnly then .error ⟨"read-only", []⟩
    else
      let id := Int64.ofNat (c.entries.length + 1)
      .ok (id, { c with entries := c.entries ++ [{ e with id }] })
  update c e :=
    if c.readOnly then .error ⟨"read-only", []⟩
    else .ok { c with entries := replace e c.entries }

end MemoryCache

/-! ## In a database -/

/-- A table of entries by increasing identifier, and the greatest identifier ever used. -/
structure CacheTable where
  rows : List CacheEntry := []
  lastId : Int64 := 0
deriving DecidableEq, Repr, Inhabited

namespace CacheTable

/-- The operations. -/
def store : CacheStore CacheTable where
  find? t email := .ok (t.rows.find? (·.email = email))
  insert t e :=
    if t.rows.any (·.email = e.email) ∨ t.lastId = Int64.maxValue then
      .error ⟨"Failed to create clash subscription", []⟩
    else
      let id := t.lastId + 1
      .ok (id, ⟨t.rows ++ [{ e with id }], id⟩)
  update t e :=
    if t.rows.any (·.id = e.id) ∧ t.rows.any (fun r => r.id ≠ e.id ∧ r.email = e.email) then
      .error ⟨"Failed to update clash subscription", []⟩
    else .ok { t with rows := t.rows.map fun r => if r.id = e.id then e else r }

end CacheTable
end ProxyFeed
