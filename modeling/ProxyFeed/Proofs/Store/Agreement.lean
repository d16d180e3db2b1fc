import ProxyFeed.Proofs.Json.Members
import ProxyFeed.Proofs.Json.Record
import ProxyFeed.Proofs.Store.JsonColumn
import ProxyFeed.Proofs.Store.Writes
import ProxyFeed.Store.Memory
import Mathlib.Data.List.Find
import Mathlib.Data.List.Sort

/-!
# The two stores of inbounds

Inbounds are looked up in a database, whose queries read the settings as relaxed JSON, or in a list
in memory, which reads them as the rest of the program does.  On settings that were written by a
program both find the same inbounds.

One difference remains.  A fallback is looked up in the value of the whole settings, and an object
that begins with a reserved key is read as an embedded document there.  Then the list in memory may
not find a fallback that the database finds, so that query agrees on settings without such an object
only.

## What is here

* `Json.IsSettings` — settings with the members the lookups ask for.
* `Client.listOfText?_compact` — the clients of such settings.
* `Database.Holds` — a database whose tables hold a list of inbounds.
* `Database.stores_agree` — the lookups agree.
-/

set_option autoImplicit false
namespace ProxyFeed

/-! ## Settings -/

namespace Json

/-- An object with the fields of a client: the subscription and the e-mail are there, and no field
has a value of another type. -/
structure IsClient (item : Json) : Prop where
  object : ∃ ms, item = .obj ms
  subId : ∃ s, item.get? "subId" = some (.str s)
  email : ∃ s, item.get? "email" = some (.str s)
  texts : ∀ key ∈ ["id", "password", "security", "flow"], ∀ w, item.get? key = some w →
    ∃ s, w = .str s
  enable : ∀ w, item.get? "enable" = some w → ∃ b, w = .bool b

/-- An object whose destination, if there is one, is a string or a number. -/
structure IsFallback (item : Json) : Prop where
  object : ∃ ms, item = .obj ms
  dest : ∀ w, item.get? "dest" = some w → (∃ s, w = .str s) ∨ ∃ n, w = .num n

/-- Settings of an inbound: an object without repeated keys and null characters, whose numbers are
integers, with at most 127 brackets open at a time. -/
structure IsSettings (v : Json) : Prop where
  object : ∃ ms, v = .obj ms
  integral : v.Integral
  distinct : v.Distinct
  plain : v.PlainKeys
  shallow : v.depth < 128
  clients : v.ArrayAt "clients"
  fallbacks : v.ArrayAt "fallbacks"
  isClient : ∀ item ∈ v.itemsOf "clients", item.IsClient
  isFallback : ∀ item ∈ v.itemsOf "fallbacks", item.IsFallback

/-- What holds of every object holds of those in the items of a member. -/
theorem EveryObject.of_itemsOf {p : Members → Prop} {v : Json} {key : String}
    (h : v.EveryObject p) (array : v.ArrayAt key) : ∀ item ∈ v.itemsOf key, item.EveryObject p := by
  obtain ⟨-, none⟩ | found := array.get?_eq
  · simp [none]
  · exact (h.of_get? found).of_mem

end Json

/-! ## Clients -/

namespace Client

open Json (rawItems)

theorem ofRaw?_raw {item : Json} (h : item.IsClient) (distinct : item.Distinct) :
    ∃ c, ofRaw? item.raw = some c ∧ item.text? "subId" = some c.subId ∧
      item.text? "email" = some c.email := by
  obtain ⟨ms, rfl⟩ := h.object
  have fields := RawJson.fields?_raw distinct.1 fieldNames
  simp only [fieldNames, List.map_cons, List.map_nil] at fields
  obtain ⟨id, id_eq⟩ := RawJson.exists_orElse_text? (h.texts "id" (by decide))
  obtain ⟨password, password_eq⟩ := RawJson.exists_orElse_text? (h.texts "password" (by decide))
  obtain ⟨security, security_eq⟩ := RawJson.exists_orElse_text? (h.texts "security" (by decide))
  obtain ⟨flow, flow_eq⟩ := RawJson.exists_orElse_text? (h.texts "flow" (by decide))
  obtain ⟨subId, subId_eq⟩ := h.subId
  obtain ⟨email, email_eq⟩ := h.email
  obtain ⟨enable, enable_eq⟩ : ∃ b, RawJson.orElse false RawJson.bool?
      (((Json.obj ms).get? "enable").map Json.raw) = some b := by
    cases found : (Json.obj ms).get? "enable" with
    | none => exact ⟨false, rfl⟩
    | some w =>
      obtain ⟨b, rfl⟩ := h.enable w found
      exact ⟨b, rfl⟩
  refine ⟨⟨id, password, email, security, enable, flow, subId⟩, ?_, ?_, ?_⟩
  · simp only [ofRaw?, fieldNames, fields, Option.bind_eq_bind, Option.bind_some, id_eq,
      password_eq, security_eq, flow_eq, enable_eq, subId_eq, email_eq]
    rfl
  · rw [Json.text?, subId_eq]
    rfl
  · rw [Json.text?, email_eq]
    rfl

theorem mapM_ofRaw? {items : List Json} (h : ∀ item ∈ items, item.IsClient)
    (distinct : ∀ item ∈ items, item.Distinct) :
    ∃ clients, (rawItems items).mapM ofRaw? = some clients ∧
      List.Forall₂ (fun item c => item.text? "subId" = some (subId c) ∧
        item.text? "email" = some (email c)) items clients := by
  induction items with
  | nil => exact ⟨[], rfl, .nil⟩
  | cons item items ih =>
    obtain ⟨first, others⟩ := List.forall_mem_cons.1 h
    obtain ⟨distinct_first, distinct_others⟩ := List.forall_mem_cons.1 distinct
    obtain ⟨c, read, fields⟩ := ofRaw?_raw first distinct_first
    obtain ⟨clients, read_all, fields_all⟩ := ih others distinct_others
    refine ⟨c :: clients, ?_, .cons fields fields_all⟩
    rw [rawItems, List.mapM_cons, read, read_all]
    rfl

/-- **The clients of settings are read**, with their subscriptions and e-mails. -/
theorem listOfText?_compact {v : Json} (h : v.IsSettings) :
    ∃ clients, listOfText? v.compact = some clients ∧
      List.Forall₂ (fun item c => item.text? "subId" = some (subId c) ∧
        item.text? "email" = some (email c)) (v.itemsOf "clients") clients := by
  obtain ⟨ms, rfl⟩ := h.object
  obtain ⟨clients, read, fields⟩ := mapM_ofRaw? h.isClient (h.distinct.of_itemsOf h.clients)
  refine ⟨clients, ?_, fields⟩
  have member := RawJson.fields?_raw h.distinct.1 ["clients"]
  rw [listOfText?, RawJson.parse?_compact h.integral, Option.bind_some, listOfRaw?, member]
  obtain ⟨absent, none⟩ | found := h.clients.get?_eq
  · rw [none] at read
    rw [List.map_singleton, absent]
    exact read
  · rw [List.map_singleton, found]
    exact read

/-- A test of a field finds the same among the records and among their texts. -/
theorem any_eq_of_forall₂ {items : List Json} {clients : List Client} {key : String}
    {field : Client → String}
    (h : List.Forall₂ (fun item c => item.text? key = some (field c)) items clients)
    (text : String) :
    (clients.any fun c => field c = text) = items.any fun item => item.text? key = some text := by
  induction h with
  | nil => rfl
  | cons same _ ih => simp [List.any_cons, same, ih]

end Client

/-! ## Lookups as filters -/

namespace Inbound

/-- An inbound without its traffic, as it stands in a table. -/
def bare (i : Inbound) : Inbound := { i with clientStats := [] }

end Inbound

namespace Database

/-- A query that fails on no row finds the rows that pass. -/
theorem selectAll_eq_filter {test : Inbound → Except MalformedJson Bool} {p : Inbound → Bool}
    {rows : List Inbound} (h : ∀ i ∈ rows, test i = .ok (p i)) :
    selectAll test rows = .ok (rows.filter p) := by
  induction rows with
  | nil => rfl
  | cons i rows ih =>
    obtain ⟨first, others⟩ := List.forall_mem_cons.1 h
    rw [selectAll, first, ih others, List.filter_cons]
    rfl

/-- A query that fails on no row finds the first row that passes. -/
theorem selectFirst_eq_find? {test : Inbound → Except MalformedJson Bool} {p : Inbound → Bool}
    {rows : List Inbound} (h : ∀ i ∈ rows, test i = .ok (p i)) :
    selectFirst test rows = .ok (rows.find? p) := by
  induction rows with
  | nil => rfl
  | cons i rows ih =>
    obtain ⟨first, others⟩ := List.forall_mem_cons.1 h
    rw [selectFirst, first, ih others, List.find?_cons]
    cases p i <;> rfl

/-- The tables hold a list of inbounds and their traffic. -/
structure Holds (db : Database) (inbounds : List Inbound) : Prop where
  ordered : db.Ordered
  rows : db.inbounds = inbounds.map Inbound.bare
  traffic : ∀ t, t ∈ db.traffic ↔ ∃ i ∈ inbounds, t ∈ i.clientStats

section Holds

variable {db : Database} {inbounds : List Inbound} (holds : db.Holds inbounds)

include holds

theorem Holds.increasing : (inbounds.map (·.id)).Pairwise (· < ·) := by
  have ids : db.inbounds.map (·.id) = inbounds.map (·.id) := by
    rw [holds.rows, List.map_map]
    rfl
  exact ids ▸ holds.ordered.inbounds

theorem Holds.linkable : db.inbounds.filter Inbound.isLinkable =
    (inbounds.filter Inbound.isLinkable).map Inbound.bare := by
  rw [holds.rows, List.filter_map]
  rfl

/-- Different inbounds have different identifiers. -/
theorem Holds.eq_of_id {i j : Inbound} (hi : i ∈ inbounds) (hj : j ∈ inbounds)
    (same : i.id = j.id) : i = j := by
  have nodup : (inbounds.map (·.id)).Nodup :=
    holds.increasing.imp fun lt => Int64.ne_of_lt lt
  exact List.inj_on_of_nodup_map nodup hi hj same

/-- **A row gets its own traffic back.** -/
theorem Holds.withStats_bare
    (own : ∀ i ∈ inbounds, ∀ t ∈ i.clientStats, t.inboundId = i.id)
    (sorted : ∀ i ∈ inbounds, (i.clientStats.map (·.id)).Pairwise (· < ·)) :
    ∀ i ∈ inbounds, db.withStats i.bare = i := by
  intro i hi
  have stats : db.clientStats i.id = i.clientStats := by
    have below : Std.Irrefl fun t u : Traffic => t.id < u.id := ⟨fun t => Int64.lt_irrefl⟩
    have one_way : Std.Antisymm fun t u : Traffic => t.id < u.id :=
      ⟨fun t u lt gt => absurd (Int64.lt_trans lt gt) Int64.lt_irrefl⟩
    have stored : (db.clientStats i.id).Pairwise fun t u => t.id < u.id :=
      (List.pairwise_map.1 holds.ordered.traffic).sublist List.filter_sublist
    refine stored.eq_of_mem_iff (List.pairwise_map.1 (sorted i hi)) fun t => ?_
    rw [clientStats, List.mem_filter, holds.traffic, decide_eq_true_eq]
    constructor
    · rintro ⟨⟨j, hj, there⟩, belongs⟩
      have same : j.id = i.id := (own j hj t there).symm.trans belongs
      exact holds.eq_of_id hj hi same ▸ there
    · intro there
      exact ⟨⟨i, hi, there⟩, own i hi t there⟩
  rw [withStats, Inbound.bare]
  exact congrArg (fun stats => { i with clientStats := stats }) stats

end Holds

end Database

/-! ## The tests of both stores -/

namespace Json

/-- Has an item of an array member this text in a field? -/
def hasItem (v : Json) (list field text : String) : Bool :=
  (v.itemsOf list).any fun item => item.text? field = some text

namespace IsSettings

variable {v : Json} (h : v.IsSettings)

include h

theorem le_nestingLimit : v.depth ≤ RelaxedJson.nestingLimit :=
  Nat.le_of_lt (Nat.lt_trans h.shallow (by decide))

/-- A field that is a text in every client is one that can be tested. -/
theorem scalarAt_of_text {key : String}
    (text : ∀ item : Json, item.IsClient → ∃ s, item.get? key = some (.str s)) :
    ∀ item ∈ v.itemsOf "clients", JsonColumn.ScalarAt key item := by
  intro item hi
  have client := h.isClient item hi
  refine ⟨client.object, h.plain.of_itemsOf h.clients item hi, fun w found => .inl ?_⟩
  obtain ⟨s, field⟩ := text item client
  exact ⟨s, Option.some.inj (found.symm.trans field)⟩

theorem scalarAt_dest : ∀ item ∈ v.itemsOf "fallbacks", JsonColumn.ScalarAt "dest" item := by
  intro item hi
  have fallback := h.isFallback item hi
  exact ⟨fallback.object, h.plain.of_itemsOf h.fallbacks item hi, fallback.dest⟩

/-- The query for a subscription tests the clients. -/
theorem anyOf_clients (text : String) :
    (do JsonColumn.anyOf "subId" text (← JsonColumn.clients v.compact)) =
      .ok (v.hasItem "clients" "subId" text) := by
  rw [JsonColumn.clients_compact h.integral h.le_nestingLimit h.object h.plain h.clients]
  exact JsonColumn.anyOf_relaxed (h.scalarAt_of_text fun _ client => client.subId) text

/-- The query for an e-mail tests the clients. -/
theorem firstOf_clients (text : String) :
    (do JsonColumn.firstOf "email" text (← JsonColumn.clients v.compact)) =
      .ok (v.hasItem "clients" "email" text) := by
  rw [JsonColumn.clients_compact h.integral h.le_nestingLimit h.object h.plain h.clients]
  exact JsonColumn.firstOf_relaxed (h.scalarAt_of_text fun _ client => client.email) text

/-- The query for a fallback master tests the fallbacks. -/
theorem firstOf_fallbacks (text : String) :
    (do JsonColumn.firstOf "dest" text (← JsonColumn.fallbacks v.compact)) =
      .ok (v.hasItem "fallbacks" "dest" text) := by
  rw [JsonColumn.fallbacks_compact h.integral h.le_nestingLimit h.object h.plain h.fallbacks]
  exact JsonColumn.firstOf_relaxed h.scalarAt_dest text

/-- In memory, settings are read as a value of which the fallbacks are a part. -/
theorem fallbacks_eq (unembedded : v.Unembedded) :
    MemoryInbounds.fallbacks v.compact = v.itemsOf "fallbacks" := by
  rw [MemoryInbounds.fallbacks, parse?_compact h.integral h.distinct unembedded
    (Nat.le_of_lt_succ h.shallow)]
  rfl

end IsSettings
end Json

/-! ## Agreement -/

section Agreement

variable {inbounds : List Inbound} {tree : String → Json}
  (written : ∀ i ∈ inbounds, (tree i.settings).compact = i.settings)
  (shaped : ∀ i ∈ inbounds, (tree i.settings).IsSettings)

include written shaped

/-- The clients of a listed inbound. -/
theorem Inbound.exists_clients? {i : Inbound} (listed : i ∈ inbounds) :
    ∃ clients, i.clients? = some clients ∧
      List.Forall₂ (fun item (c : Client) => item.text? "subId" = some c.subId ∧
        item.text? "email" = some c.email) ((tree i.settings).itemsOf "clients") clients := by
  have read := Client.listOfText?_compact (shaped i listed)
  rw [written i listed] at read
  exact read

namespace MemoryInbounds

theorem bySubId_eq_filter (subId : String) :
    bySubId inbounds subId = (inbounds.filter Inbound.isLinkable).filter fun i =>
      (tree i.settings).hasItem "clients" "subId" subId := by
  refine List.filter_congr fun i hi => ?_
  obtain ⟨clients, read, fields⟩ :=
    Inbound.exists_clients? written shaped (List.mem_of_mem_filter hi)
  rw [read]
  exact Client.any_eq_of_forall₂ (fields.imp fun _ _ same => same.1) subId

theorem byClientEmail_eq_find? (email : String) :
    byClientEmail inbounds email = (inbounds.filter Inbound.isLinkable).find? fun i =>
      (tree i.settings).hasItem "clients" "email" email := by
  refine List.find?_congr fun i hi => ?_
  obtain ⟨clients, read, fields⟩ :=
    Inbound.exists_clients? written shaped (List.mem_of_mem_filter hi)
  rw [read]
  exact Client.any_eq_of_forall₂ (fields.imp fun _ _ same => same.2) email

theorem fallbackMaster_eq_find? (unembedded : ∀ i ∈ inbounds, (tree i.settings).Unembedded)
    (dest : String) :
    fallbackMaster inbounds dest = inbounds.find? fun i =>
      (tree i.settings).hasItem "fallbacks" "dest" dest := by
  refine List.find?_congr fun i hi => ?_
  have read := (shaped i hi).fallbacks_eq (unembedded i hi)
  rw [written i hi] at read
  rw [read]
  rfl

end MemoryInbounds

namespace Database

/-- A query of the settings tests the values that they were written from. -/
theorem query_bare (query : String → Except MalformedJson Bool) {test : Json → Bool}
    (h : ∀ v : Json, v.IsSettings → query v.compact = .ok (test v)) {rows : List Inbound}
    (listed : rows ⊆ inbounds) :
    ∀ row ∈ rows.map Inbound.bare, query row.settings = .ok (test (tree row.settings)) := by
  intro row hrow
  obtain ⟨i, hi, rfl⟩ := List.mem_map.1 hrow
  have tested := h _ (shaped i (listed hi))
  rw [written i (listed hi)] at tested
  exact tested

variable {db : Database} (holds : db.Holds inbounds)

include holds

theorem bySubId_eq_filter (subId : String) :
    db.bySubId subId = .ok (((inbounds.filter Inbound.isLinkable).filter fun i =>
      (tree i.settings).hasItem "clients" "subId" subId).map Inbound.bare) := by
  have tested := query_bare written shaped
    (fun settings => do JsonColumn.anyOf "subId" subId (← JsonColumn.clients settings))
    (fun _ h => h.anyOf_clients subId)
    (List.filter_subset_self (p := Inbound.isLinkable) inbounds)
  rw [bySubId, holds.linkable, selectAll_eq_filter tested, List.filter_map]
  rfl

theorem byClientEmail_eq_find? (email : String) :
    db.byClientEmail email = .ok (((inbounds.filter Inbound.isLinkable).find? fun i =>
      (tree i.settings).hasItem "clients" "email" email).map Inbound.bare) := by
  have tested := query_bare written shaped
    (fun settings => do JsonColumn.firstOf "email" email (← JsonColumn.clients settings))
    (fun _ h => h.firstOf_clients email)
    (List.filter_subset_self (p := Inbound.isLinkable) inbounds)
  rw [byClientEmail, holds.linkable, selectFirst_eq_find? tested, List.find?_map]
  rfl

theorem fallbackMaster_eq_find? (dest : String) :
    db.fallbackMaster dest = .ok ((inbounds.find? fun i =>
      (tree i.settings).hasItem "fallbacks" "dest" dest).map Inbound.bare) := by
  have tested := query_bare written shaped
    (fun settings => do JsonColumn.firstOf "dest" dest (← JsonColumn.fallbacks settings))
    (fun _ h => h.firstOf_fallbacks dest) (List.Subset.refl inbounds)
  rw [fallbackMaster, holds.rows, selectFirst_eq_find? tested, List.find?_map]
  rfl

end Database

end Agreement

namespace Database

theorem store_fallbackMaster (db : Database) (dest : String) : db.store.fallbackMaster dest =
    answer "Failed to fetch fallback master inbound" (db.fallbackMaster dest) := rfl

/-- **The two stores agree**: for every subscription and every e-mail they find the same inbounds in
the same order, each of them once; and for every destination the same fallback master, up to its
traffic, if no object in the settings begins with the reserved key. -/
theorem stores_agree {db : Database} {inbounds : List Inbound} (holds : db.Holds inbounds)
    (own : ∀ i ∈ inbounds, ∀ t ∈ i.clientStats, t.inboundId = i.id)
    (sorted : ∀ i ∈ inbounds, (i.clientStats.map (·.id)).Pairwise (· < ·))
    {tree : String → Json} (written : ∀ i ∈ inbounds, (tree i.settings).compact = i.settings)
    (shaped : ∀ i ∈ inbounds, (tree i.settings).IsSettings) (query : String) :
    (∃ found, db.store.bySubId query = .ok found ∧
      (MemoryInbounds.store inbounds).bySubId query = .ok found ∧
      (found.map (·.id)).Pairwise (· < ·)) ∧
    (∃ found, db.store.byClientEmail query = .ok found ∧
      (MemoryInbounds.store inbounds).byClientEmail query = .ok found) ∧
    ((∀ i ∈ inbounds, (tree i.settings).Unembedded) →
      ∃ master, db.store.fallbackMaster query = .ok (master.map Inbound.bare) ∧
        (MemoryInbounds.store inbounds).fallbackMaster query = .ok master) := by
  have restored := holds.withStats_bare own sorted
  refine ⟨⟨_, ?_, congrArg Except.ok (MemoryInbounds.bySubId_eq_filter written shaped query), ?_⟩,
    ⟨_, ?_, congrArg Except.ok (MemoryInbounds.byClientEmail_eq_find? written shaped query)⟩,
    fun unembedded => ⟨_, ?_, congrArg Except.ok
      (MemoryInbounds.fallbackMaster_eq_find? written shaped unembedded query)⟩⟩
  · show (answer _ (db.bySubId query)).map _ = _
    rw [bySubId_eq_filter written shaped holds]
    show Except.ok ((List.map Inbound.bare _).map db.withStats) = _
    rw [List.map_map, List.map_congr_left (g := id), List.map_id]
    intro i hi
    exact restored i (List.mem_of_mem_filter (List.mem_of_mem_filter hi))
  · exact holds.increasing.sublist ((List.filter_sublist.trans List.filter_sublist).map _)
  · show (answer _ (db.byClientEmail query)).map _ = _
    rw [byClientEmail_eq_find? written shaped holds]
    cases found : (inbounds.filter Inbound.isLinkable).find? fun i =>
        (tree i.settings).hasItem "clients" "email" query with
    | none => rfl
    | some i =>
      have listed := List.mem_of_mem_filter (List.mem_of_find?_eq_some found)
      exact congrArg (Except.ok ∘ some) (restored i listed)
  · rw [store_fallbackMaster, fallbackMaster_eq_find? written shaped holds]
    rfl

/-! ## Two lists of one inbound -/

/-- The record of a client without a credential. -/
def clientRecord (email : String) : Json := .obj [("email", .str email), ("subId", .str "home")]

/-- Settings with two clients of one subscription. -/
def sharedTree : Json :=
  .obj [("clients", .arr [clientRecord "kim", clientRecord "lee"]),
    ("fallbacks", .arr [.obj [("dest", .ofInt 80)], .obj [("dest", .str "@m")]])]

theorem isClient_clientRecord (email : String) : (clientRecord email).IsClient where
  object := ⟨_, rfl⟩
  subId := ⟨_, rfl⟩
  email := ⟨_, rfl⟩
  texts key hk w found := by
    simp only [List.mem_cons, List.not_mem_nil, or_false] at hk
    rcases hk with rfl | rfl | rfl | rfl <;> cases found
  enable w found := by cases found

theorem isSettings_sharedTree : sharedTree.IsSettings where
  object := ⟨_, rfl⟩
  integral := by decide
  distinct := by decide
  plain := by decide
  shallow := by decide
  clients w found := ⟨_, (Option.some.inj found).symm⟩
  fallbacks w found := ⟨_, (Option.some.inj found).symm⟩
  isClient item hi := by
    have clients : sharedTree.itemsOf "clients" = [clientRecord "kim", clientRecord "lee"] := rfl
    rw [clients] at hi
    rcases List.mem_pair.1 hi with rfl | rfl
    · exact isClient_clientRecord _
    · exact isClient_clientRecord _
  isFallback item hi := by
    have fallbacks : sharedTree.itemsOf "fallbacks" =
      [.obj [("dest", .ofInt 80)], .obj [("dest", .str "@m")]] := rfl
    rw [fallbacks] at hi
    rcases List.mem_pair.1 hi with rfl | rfl
    · exact ⟨⟨_, rfl⟩, fun w found => .inr ⟨_, (Option.some.inj found).symm⟩⟩
    · exact ⟨⟨_, rfl⟩, fun w found => .inl ⟨_, (Option.some.inj found).symm⟩⟩

/-- An inbound with those settings. -/
def shared : Inbound where
  id := 1
  enable := true
  port := 443
  protocol := "vless"
  settings := sharedTree.compact
  clientStats := [{ id := 1, inboundId := 1, email := "kim" }]

/-- The tables after that inbound was added. -/
def sharedRows : Database := afterWrites [.addInbound shared]

theorem holds_sharedRows : sharedRows.Holds [shared] where
  ordered := ordered_afterWrites _
  rows := rfl
  traffic t := by
    have rows : sharedRows.traffic = shared.clientStats := rfl
    simp [rows]

/-- The value that the settings were written from. -/
def treeOfShared : String → Json := Function.const String sharedTree

theorem written_shared : ∀ i ∈ [shared], (treeOfShared i.settings).compact = i.settings := by
  simp [treeOfShared, shared]

theorem shaped_shared : ∀ i ∈ [shared], (treeOfShared i.settings).IsSettings :=
  fun _ _ => isSettings_sharedTree

theorem unembedded_shared : ∀ i ∈ [shared], (treeOfShared i.settings).Unembedded := by
  simpa [treeOfShared] using (by decide : sharedTree.Unembedded)

/-- What the list in memory finds. -/
theorem lookups_shared : MemoryInbounds.bySubId [shared] "home" = [shared] ∧
    MemoryInbounds.fallbackMaster [shared] "@m" = some shared := by
  have linkable : shared.isLinkable = true := by decide
  have subscribes : sharedTree.hasItem "clients" "subId" "home" = true := by decide
  have forwards : sharedTree.hasItem "fallbacks" "dest" "@m" = true := by decide
  rw [MemoryInbounds.bySubId_eq_filter written_shared shaped_shared,
    MemoryInbounds.fallbackMaster_eq_find? written_shared shaped_shared unembedded_shared]
  simp [treeOfShared, linkable, subscribes, forwards]

/-- Both stores find the inbound once, although both of its clients belong to the subscription, and
by its fallback the database finds it without its traffic. -/
theorem stores_agree_shared :
    sharedRows.store.bySubId "home" = .ok [shared] ∧
    (MemoryInbounds.store [shared]).bySubId "home" = .ok [shared] ∧
    sharedRows.store.fallbackMaster "@m" = .ok (some shared.bare) := by
  have own : ∀ i ∈ [shared], ∀ t ∈ i.clientStats, t.inboundId = i.id := by decide
  have sorted : ∀ i ∈ [shared], (i.clientStats.map (·.id)).Pairwise (· < ·) := by decide
  obtain ⟨⟨found, rows, listed, -⟩, -⟩ :=
    stores_agree holds_sharedRows own sorted written_shared shaped_shared "home"
  obtain ⟨-, -, masters⟩ :=
    stores_agree holds_sharedRows own sorted written_shared shaped_shared "@m"
  obtain ⟨master, row, listed_master⟩ := masters unembedded_shared
  obtain rfl : [shared] = found := lookups_shared.1.symm.trans (Except.ok.inj listed)
  obtain rfl : some shared = master := lookups_shared.2.symm.trans (Except.ok.inj listed_master)
  exact ⟨rows, listed, row⟩

/-- Settings that begin with the reserved key. -/
def reservedTree : Json :=
  .obj [(RawJson.embeddedKey, .str ""), ("fallbacks", .arr [.obj [("dest", .str "@m")]])]

theorem isSettings_reservedTree : reservedTree.IsSettings where
  object := ⟨_, rfl⟩
  integral := by decide
  distinct := by decide
  plain := by decide
  shallow := by decide
  clients w found := by cases found
  fallbacks w found := ⟨_, (Option.some.inj found).symm⟩
  isClient item hi := by cases hi
  isFallback item hi := by
    have fallbacks : reservedTree.itemsOf "fallbacks" = [.obj [("dest", .str "@m")]] := rfl
    rw [fallbacks] at hi
    obtain rfl := List.mem_singleton.1 hi
    exact ⟨⟨_, rfl⟩, fun w found => .inl ⟨_, (Option.some.inj found).symm⟩⟩

/-- An inbound with those settings. -/
def reserved : Inbound where
  id := 1
  remark := "Edge"
  enable := true
  port := 443
  protocol := "vless"
  settings := reservedTree.compact
  streamSettings := "\x7b\x7d"

/-- The tables after that inbound was added. -/
def reservedRows : Database := afterWrites [.addInbound reserved]

theorem holds_reservedRows : reservedRows.Holds [reserved] where
  ordered := ordered_afterWrites _
  rows := rfl
  traffic t := by
    have rows : reservedRows.traffic = reserved.clientStats := rfl
    simp [rows]

/-- The database finds the fallback master, the list in memory does not. -/
theorem reserved_missed_in_memory :
    reservedRows.Holds [reserved] ∧ reserved.settings = reservedTree.compact ∧
    reservedTree.IsSettings ∧ reservedRows.store.fallbackMaster "@m" = .ok (some reserved) ∧
    (MemoryInbounds.store [reserved]).fallbackMaster "@m" = .ok none := by
  refine ⟨holds_reservedRows, rfl, isSettings_reservedTree, ?_, ?_⟩
  · have written : ∀ i ∈ [reserved], (Function.const String reservedTree i.settings).compact =
        i.settings := by
      simp [reserved]
    have shaped : ∀ i ∈ [reserved], (Function.const String reservedTree i.settings).IsSettings :=
      fun _ _ => isSettings_reservedTree
    have forwards : reservedTree.hasItem "fallbacks" "dest" "@m" = true := by decide
    have found := fallbackMaster_eq_find? written shaped holds_reservedRows "@m"
    have row : reservedRows.fallbackMaster "@m" = .ok (some reserved.bare) := by
      simpa [forwards] using found
    rw [store_fallbackMaster, row]
    rfl
  · have unread : Json.parse? reserved.settings = none := by
      have tree : RawJson.parse? reserved.settings = some reservedTree.raw :=
        RawJson.parse?_compact (by decide)
      rw [Json.parse?, RawJson.document?, tree]
      rfl
    have nothing : MemoryInbounds.fallbacks reserved.settings = [] := by
      rw [MemoryInbounds.fallbacks, unread]
      rfl
    have missed : MemoryInbounds.fallbackMaster [reserved] "@m" = none := by
      simp [MemoryInbounds.fallbackMaster, nothing]
    exact congrArg Except.ok missed

end Database

end ProxyFeed
