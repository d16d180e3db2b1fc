import ProxyFeed.Proofs.Fallback.Resolve
import ProxyFeed.Proofs.Store.Writes
import ProxyFeed.Store.Memory
import ProxyFeed.Subscription.Basic
import Mathlib.Data.List.Basic

/-!
# An inbound that cannot be read

A subscription passes over an inbound whose settings are not JSON.  Whether such an inbound leaves
the answers for the others alone depends on the store: inbounds in memory are looked at one by one,
while one query of a database reads the settings of many rows and fails as a whole.

## What is here

* `Subscription.answerWith` — an answer in which every spider path is the same given text, so that
  answers can be compared up to their paths; `Subscription.SameAnswers` compares two stores.
* `Database.subscribes` and `Database.forwards` — what the queries for a subscription and for a
  fallback master ask of a row.
* `Database.selectAll_insert` and `Database.selectFirst_insert` — one row more in such a query.
* `Subscription.unreadable_inbound_iff` — when one more unreadable inbound changes nothing.
-/

set_option autoImplicit false
namespace ProxyFeed

/-- A source that draws one and the same path. -/
structure FixedPath where
  path : String
deriving DecidableEq, Repr

/-- The path of the source. -/
instance : SpiderSource FixedPath where
  draw s := (s.path, s)

/-! ## Lookups -/

namespace MemoryInbounds

theorem fallbacks_of_unreadable {settings : String} (h : RawJson.parse? settings = none) :
    fallbacks settings = [] := by
  rw [fallbacks, Json.parse?, RawJson.document?, h]
  rfl

/-- An unreadable inbound is nobody's master. -/
theorem fallbackMaster_insert {bad : Inbound} (h : RawJson.parse? bad.settings = none)
    (before after : List Inbound) (dest : String) :
    fallbackMaster (before ++ bad :: after) dest = fallbackMaster (before ++ after) dest := by
  rw [fallbackMaster, fallbackMaster, List.find?_append, List.find?_append, List.find?_cons_of_neg]
  simp [fallbacks_of_unreadable h]

theorem bySubId_append (before after : List Inbound) (subId : String) :
    bySubId (before ++ after) subId = bySubId before subId ++ bySubId after subId := by
  rw [bySubId, List.filter_append, List.filter_append]
  rfl

/-- An unreadable inbound belongs to every subscription. -/
theorem bySubId_cons {bad : Inbound} (linkable : bad.isLinkable) (h : bad.clients? = none)
    (after : List Inbound) (subId : String) :
    bySubId (bad :: after) subId = bad :: bySubId after subId := by
  rw [bySubId, List.filter_cons_of_pos linkable, List.filter_cons_of_pos]
  · rfl
  · rw [h]

end MemoryInbounds

namespace Database

/-- What the query for a subscription asks of a row: does its settings column hold a client of the
subscription? -/
def subscribes (subId : String) (i : Inbound) : Except MalformedJson Bool := do
  JsonColumn.anyOf "subId" subId (← JsonColumn.clients i.settings)

/-- What the query for a fallback master asks of a row: does its settings column hold a fallback
with the destination? -/
def forwards (dest : String) (i : Inbound) : Except MalformedJson Bool := do
  JsonColumn.firstOf "dest" dest (← JsonColumn.fallbacks i.settings)

theorem selectAll_append (test : Inbound → Except MalformedJson Bool) (xs ys : List Inbound) :
    selectAll test (xs ++ ys) = do return (← selectAll test xs) ++ (← selectAll test ys) := by
  induction xs with
  | nil =>
    rw [List.nil_append]
    cases h : selectAll test ys <;> rfl
  | cons x xs ih =>
    rw [List.cons_append, selectAll, selectAll, ih]
    cases test x with
    | error e => rfl
    | ok passes =>
      cases selectAll test xs with
      | error e => rfl
      | ok front =>
        cases selectAll test ys with
        | error e => rfl
        | ok back => cases passes <;> rfl

theorem mem_of_mem_selectAll {test : Inbound → Except MalformedJson Bool} :
    ∀ {rows found : List Inbound}, selectAll test rows = .ok found → ∀ i ∈ found, i ∈ rows
  | [], found, h, i, hi => by
    obtain rfl := Except.ok.inj h
    exact hi
  | row :: rows, found, h, i, hi => by
    rw [selectAll] at h
    cases tested : test row with
    | error e => rw [tested] at h; cases h
    | ok passes =>
      cases more : selectAll test rows with
      | error e => rw [tested, more] at h; cases h
      | ok rest =>
        have later := mem_of_mem_selectAll more
        rw [tested, more] at h
        obtain rfl := Except.ok.inj h
        cases passes with
        | false => exact List.mem_cons_of_mem _ (later i hi)
        | true =>
          rcases List.mem_cons.1 hi with rfl | hi
          · exact List.mem_cons_self
          · exact List.mem_cons_of_mem _ (later i hi)

/-- **One row more in a query over all rows**: the query fails if it fails on that row, and finds
the row in its place if the row passes. -/
theorem selectAll_insert {test : Inbound → Except MalformedJson Bool} {xs ys found : List Inbound}
    (h : selectAll test (xs ++ ys) = .ok found) (x : Inbound) :
    ∃ front back, found = front ++ back ∧
      selectAll test (xs ++ x :: ys) =
        (test x).map fun passes => front ++ (if passes then [x] else []) ++ back := by
  rw [selectAll_append] at h ⊢
  cases hx : selectAll test xs with
  | error e => rw [hx] at h; cases h
  | ok front =>
    cases hy : selectAll test ys with
    | error e => rw [hx, hy] at h; cases h
    | ok back =>
      rw [hx, hy] at h
      refine ⟨front, back, (Except.ok.inj h).symm, ?_⟩
      rw [selectAll, hy]
      cases test x with
      | error e => rfl
      | ok passes =>
        cases passes with
        | false =>
          show Except.ok (front ++ back) = Except.ok (front ++ [] ++ back)
          rw [List.append_nil]
        | true =>
          show Except.ok (front ++ x :: back) = Except.ok (front ++ [x] ++ back)
          rw [List.append_assoc]
          rfl

/-- A row that does not pass does not get in the way of the first one that does. -/
theorem selectFirst_insert {test : Inbound → Except MalformedJson Bool} {x : Inbound}
    (h : test x = .ok false) (xs ys : List Inbound) :
    selectFirst test (xs ++ x :: ys) = selectFirst test (xs ++ ys) := by
  induction xs with
  | nil =>
    rw [List.nil_append, selectFirst, h]
    rfl
  | cons y xs ih => rw [List.cons_append, List.cons_append, selectFirst, selectFirst, ih]

end Database

/-- An inbound is looked up once, and only if it is a fallback. -/
theorem Fallback.resolve_congr {store store' : InboundStore} {i : Inbound}
    (h : i.isFallbackListener → store.fallbackMaster i.listen = store'.fallbackMaster i.listen) :
    Fallback.resolve store i = Fallback.resolve store' i := by
  rw [Fallback.resolve, Fallback.resolve, Fallback.resolve?, Fallback.resolve?]
  split
  · next fallback => rw [h fallback]
  · rfl

/-- Seen through its master, an inbound has the same clients and the same traffic. -/
theorem Fallback.resolve_clientStats (store : InboundStore) (i : Inbound) :
    (Fallback.resolve store i).clientStats = i.clientStats := by
  obtain ⟨_, _, _, same⟩ := Fallback.resolve_eq_self_apart store i
  rw [same]

namespace Subscription

/-! ## Answers up to their paths -/

/-- The answer in which every spider path is `path`. -/
def answerWith (options : SubscriptionOptions) (subId host path : String) (store : InboundStore) :
    Except Failure (List String × String) :=
  fetch store options (fun _ => FixedPath.mk path) subId host

/-- Do two stores give the same answer, up to its spider paths? -/
def SameAnswers (options : SubscriptionOptions) (subId host : String)
    (store store' : InboundStore) : Prop :=
  ∀ path, answerWith options subId host path store' = answerWith options subId host path store

/-- The links of a list of inbounds, every spider path being `path`. -/
def linksWith (options : SubscriptionOptions) (subId host path : String) (store : InboundStore)
    (inbounds : List Inbound) : List String :=
  inbounds.flatMap fun i =>
    (block store (context options host) subId i (FixedPath.mk path)).links

/-- The traffic of a list of inbounds. -/
def trafficWith (options : SubscriptionOptions) (subId host path : String) (store : InboundStore)
    (inbounds : List Inbound) : List Traffic :=
  inbounds.flatMap fun i =>
    (block store (context options host) subId i (FixedPath.mk path)).traffic

theorem blocks_const {ρ : Type} [SpiderSource ρ] (store : InboundStore) (ctx : LinkContext)
    (subId : String) (source : ρ) : ∀ (n : Nat) (inbounds : List Inbound),
      blocks store ctx subId (fun _ => source) n inbounds =
        inbounds.map fun i => block store ctx subId i source
  | _, [] => rfl
  | n, i :: rest => by rw [blocks, blocks_const store ctx subId source (n + 1) rest, List.map_cons]

theorem answerWith_eq_ok (options : SubscriptionOptions) {subId : String} (host : String)
    {store : InboundStore} {found : List Inbound} (h : store.bySubId subId = .ok found)
    (ne : found ≠ []) (path : String) :
    answerWith options subId host path store =
      .ok (linksWith options subId host path store found,
        (TrafficSummary.ofList (trafficWith options subId host path store found)).header) := by
  rw [answerWith, fetch, h]
  cases found with
  | nil => exact absurd rfl ne
  | cons i rest =>
    dsimp only
    rw [blocks_const, List.flatMap_map, List.flatMap_map]
    rfl

/-- An unreadable inbound contributes nothing. -/
theorem block_of_unreadable {ρ : Type} [SpiderSource ρ] {i : Inbound} (h : i.clients? = none)
    (store : InboundStore) (ctx : LinkContext) (subId : String) (source : ρ) :
    block store ctx subId i source = ⟨[], []⟩ := by
  rw [block, h]

theorem trafficOf_resolve (store : InboundStore) (i : Inbound) (c : Client) :
    trafficOf (Fallback.resolve store i) c = trafficOf i c := by
  rw [trafficOf, trafficOf, Inbound.trafficFor, Inbound.trafficFor, Fallback.resolve_clientStats]

/-- Traffic is not looked up in the store. -/
theorem block_traffic_eq {ρ : Type} [SpiderSource ρ] (store store' : InboundStore)
    (ctx : LinkContext) (subId : String) (i : Inbound) (source : ρ) :
    (block store ctx subId i source).traffic = (block store' ctx subId i source).traffic := by
  rw [block, block]
  split
  · rfl
  · simp only [funext (trafficOf_resolve store i), funext (trafficOf_resolve store' i)]

theorem linksWith_insert {bad : Inbound} (h : bad.clients? = none) (options : SubscriptionOptions)
    (subId host path : String) (store : InboundStore) (front back : List Inbound) :
    linksWith options subId host path store (front ++ bad :: back) =
      linksWith options subId host path store (front ++ back) := by
  rw [linksWith, linksWith, List.flatMap_append, List.flatMap_append, List.flatMap_cons,
    block_of_unreadable h, List.nil_append]

theorem trafficWith_insert {bad : Inbound} (h : bad.clients? = none)
    (options : SubscriptionOptions) (subId host path : String) (store : InboundStore)
    (front back : List Inbound) :
    trafficWith options subId host path store (front ++ bad :: back) =
      trafficWith options subId host path store (front ++ back) := by
  rw [trafficWith, trafficWith, List.flatMap_append, List.flatMap_append, List.flatMap_cons,
    block_of_unreadable h, List.nil_append]

theorem trafficWith_eq (options : SubscriptionOptions) (subId host path : String)
    (store store' : InboundStore) (inbounds : List Inbound) :
    trafficWith options subId host path store inbounds =
      trafficWith options subId host path store' inbounds := by
  rw [trafficWith, trafficWith]
  simp only [block_traffic_eq store store']

/-- Links depend on a store through the masters of the fallbacks only. -/
theorem linksWith_congr {store store' : InboundStore} {inbounds : List Inbound}
    (h : ∀ i ∈ inbounds, i.isFallbackListener →
      store.fallbackMaster i.listen = store'.fallbackMaster i.listen)
    (options : SubscriptionOptions) (subId host path : String) :
    linksWith options subId host path store inbounds =
      linksWith options subId host path store' inbounds := by
  rw [linksWith, linksWith]
  refine List.flatMap_congr fun i hi => ?_
  rw [block, block, Fallback.resolve_congr (h i hi)]

/-! ## In memory -/

theorem clients?_of_unreadable {bad : Inbound} (h : RawJson.parse? bad.settings = none) :
    bad.clients? = none := by
  rw [Inbound.clients?, Client.listOfText?, h]
  rfl

/-- **In memory, an unreadable inbound changes no answer.** -/
theorem sameAnswers_memory {bad : Inbound} (linkable : bad.isLinkable)
    (unreadable : RawJson.parse? bad.settings = none) (options : SubscriptionOptions)
    {subId : String} (host : String) {before after : List Inbound}
    (found : MemoryInbounds.bySubId (before ++ after) subId ≠ []) :
    SameAnswers options subId host (MemoryInbounds.store (before ++ after))
      (MemoryInbounds.store (before ++ bad :: after)) := by
  intro path
  have unread := clients?_of_unreadable unreadable
  have masters : ∀ dest, (MemoryInbounds.store (before ++ bad :: after)).fallbackMaster dest =
      (MemoryInbounds.store (before ++ after)).fallbackMaster dest := fun dest =>
    congrArg Except.ok (MemoryInbounds.fallbackMaster_insert unreadable before after dest)
  have old : (MemoryInbounds.store (before ++ after)).bySubId subId =
      .ok (MemoryInbounds.bySubId before subId ++ MemoryInbounds.bySubId after subId) :=
    congrArg Except.ok (MemoryInbounds.bySubId_append before after subId)
  have new : (MemoryInbounds.store (before ++ bad :: after)).bySubId subId =
      .ok (MemoryInbounds.bySubId before subId ++ bad :: MemoryInbounds.bySubId after subId) := by
    rw [← MemoryInbounds.bySubId_cons linkable unread]
    exact congrArg Except.ok (MemoryInbounds.bySubId_append before (bad :: after) subId)
  rw [MemoryInbounds.bySubId_append] at found
  rw [answerWith_eq_ok options host old found, answerWith_eq_ok options host new (by simp),
    linksWith_insert unread, trafficWith_insert unread,
    linksWith_congr fun i _ _ => masters i.listen,
    trafficWith_eq _ _ _ _ _ (MemoryInbounds.store (before ++ after))]

/-! ## In a database -/

/-- What is said about a failed query for a subscription. -/
def queryContext : String := "Failed to fetch inbounds by subscription id"

/-- The inbounds of a subscription, after one more inbound was added. -/
theorem bySubId_added {db next : Database} {bad : Inbound} (ordered : db.Ordered)
    (added : db.addInbound bad = (next, true)) (linkable : bad.isLinkable) {subId : String}
    {found : List Inbound} (h : db.store.bySubId subId = .ok found) :
    ∃ front back, found = front ++ back ∧ next.store.bySubId subId =
      (Database.answer queryContext (Database.subscribes subId bad)).map fun passes =>
        front ++ (if passes then [next.withStats { bad with clientStats := [] }] else []) ++
          back := by
  obtain ⟨before, after, rows, rows', new, stats⟩ := Database.addInbound_eq_added ordered added
  cases query : db.bySubId subId with
  | error e => simp [Database.store, query, Database.answer, Except.map] at h
  | ok raw =>
    obtain rfl : raw.map db.withStats = found := by
      simpa [Database.store, query, Database.answer, Except.map] using h
    have same : ∀ i ∈ raw, db.withStats i = next.withStats i := by
      intro i hi
      have row := List.mem_of_mem_filter (Database.mem_of_mem_selectAll query i hi)
      rw [Database.withStats, Database.withStats, stats i.id (new i row)]
    have parts : Database.selectAll (Database.subscribes subId)
        (before.filter Inbound.isLinkable ++ after.filter Inbound.isLinkable) = .ok raw := by
      rw [← List.filter_append, ← rows]
      exact query
    obtain ⟨front, back, rfl, inserted⟩ :=
      Database.selectAll_insert parts { bad with clientStats := [] }
    have query' : next.bySubId subId = (Database.subscribes subId bad).map fun passes =>
        front ++ (if passes then [{ bad with clientStats := [] }] else []) ++ back := by
      have row : Inbound.isLinkable { bad with clientStats := [] } = true := linkable
      rw [Database.bySubId, rows', List.filter_append, List.filter_cons_of_pos row]
      exact inserted
    refine ⟨front.map next.withStats, back.map next.withStats, ?_, ?_⟩
    · rw [← List.map_append]
      exact List.map_congr_left same
    · show (Database.answer queryContext (next.bySubId subId)).map _ = _
      rw [query']
      cases Database.subscribes subId bad with
      | error e => rfl
      | ok passes => cases passes <;> simp [Database.answer, Except.map]

/-- **In a database, an unreadable inbound changes no answer exactly if** the query can look into
its settings all the same, and the links of the inbounds found before stay as they are. -/
theorem sameAnswers_database_iff {db next : Database} {bad : Inbound} (ordered : db.Ordered)
    (added : db.addInbound bad = (next, true)) (linkable : bad.isLinkable)
    (unreadable : RawJson.parse? bad.settings = none) (options : SubscriptionOptions)
    {subId : String} (host : String) {found : List Inbound}
    (h : db.store.bySubId subId = .ok found) (ne : found ≠ []) :
    SameAnswers options subId host db.store next.store ↔
      (∃ passes, Database.subscribes subId bad = .ok passes) ∧
        ∀ path, linksWith options subId host path next.store found =
          linksWith options subId host path db.store found := by
  obtain ⟨front, back, rfl, query⟩ := bySubId_added ordered added linkable h
  cases passed : Database.subscribes subId bad with
  | error e =>
    -- the whole query fails, so there is no answer that could be the same
    refine ⟨fun same => ?_, fun looked => ?_⟩
    · have old := answerWith_eq_ok options host h ne ""
      rw [← same "", answerWith, fetch, query, passed] at old
      cases e
      cases old
    · obtain ⟨⟨passes, impossible⟩, -⟩ := looked
      cases impossible
  | ok passes =>
    have unread : (next.withStats { bad with clientStats := [] }).clients? = none :=
      clients?_of_unreadable unreadable
    have new : ∀ path, answerWith options subId host path next.store =
        .ok (linksWith options subId host path next.store (front ++ back),
          (TrafficSummary.ofList
            (trafficWith options subId host path db.store (front ++ back))).header) := by
      intro path
      rw [passed] at query
      cases passes with
      | false =>
        have query' : next.store.bySubId subId = .ok (front ++ back) := by
          simpa [Database.answer, Except.map] using query
        rw [answerWith_eq_ok options host query' ne, trafficWith_eq _ _ _ _ next.store db.store]
      | true =>
        have query' : next.store.bySubId subId =
            .ok (front ++ next.withStats { bad with clientStats := [] } :: back) := by
          simpa [Database.answer, Except.map] using query
        rw [answerWith_eq_ok options host query' (by simp), linksWith_insert unread,
          trafficWith_insert unread, trafficWith_eq _ _ _ _ next.store db.store]
    have old := answerWith_eq_ok options host h ne
    refine ⟨fun same => ⟨⟨passes, rfl⟩, fun path => ?_⟩, fun unchanged path => ?_⟩
    · have both := (new path).symm.trans ((same path).trans (old path))
      exact (Prod.mk.inj (Except.ok.inj both)).1
    · rw [new path, old path, unchanged.2 path]

/-- **In a database, an unreadable inbound changes no answer** if the query can look into its
settings, and they forward to none of the fallbacks among the inbounds found before. -/
theorem sameAnswers_database_of_forwards {db next : Database} {bad : Inbound}
    (ordered : db.Ordered) (added : db.addInbound bad = (next, true)) (linkable : bad.isLinkable)
    (unreadable : RawJson.parse? bad.settings = none) (options : SubscriptionOptions)
    {subId : String} (host : String) {found : List Inbound}
    (h : db.store.bySubId subId = .ok found) (ne : found ≠ [])
    (looked : ∃ passes, Database.subscribes subId bad = .ok passes)
    (elsewhere : ∀ i ∈ found, i.isFallbackListener → Database.forwards i.listen bad = .ok false) :
    SameAnswers options subId host db.store next.store := by
  obtain ⟨before, after, rows, rows', -, -⟩ := Database.addInbound_eq_added ordered added
  have masters : ∀ i ∈ found, i.isFallbackListener →
      next.store.fallbackMaster i.listen = db.store.fallbackMaster i.listen := by
    intro i hi fallback
    have passed_over : Database.forwards i.listen { bad with clientStats := [] } = .ok false :=
      elsewhere i hi fallback
    have query : next.fallbackMaster i.listen = db.fallbackMaster i.listen := by
      rw [Database.fallbackMaster, Database.fallbackMaster, rows, rows']
      exact Database.selectFirst_insert passed_over before after
    exact congrArg (Database.answer "Failed to fetch fallback master inbound") query
  exact (sameAnswers_database_iff ordered added linkable unreadable options host h ne).2
    ⟨looked, fun path => linksWith_congr masters options subId host path⟩

/-- What a failed query for a subscription is answered with. -/
def malformedAnswer : Failure :=
  .store ⟨queryContext,
    ["error returned from database: (code: 1) malformed JSON", "(code: 1) malformed JSON"]⟩

/-- **In a database, settings that are no JSON for the database either are the end of every
subscription.** -/
theorem fetch_database_of_malformed {db next : Database} {bad : Inbound} (ordered : db.Ordered)
    (added : db.addInbound bad = (next, true)) (linkable : bad.isLinkable)
    (malformed : JsonColumn.column bad.settings = .error .malformed)
    (options : SubscriptionOptions) {subId : String} (host path : String) {found : List Inbound}
    (h : db.store.bySubId subId = .ok found) :
    answerWith options subId host path next.store = .error malformedAnswer := by
  obtain ⟨front, back, -, query⟩ := bySubId_added ordered added linkable h
  have raised : Database.subscribes subId bad = .error .malformed := by
    rw [Database.subscribes, JsonColumn.clients, malformed]
    rfl
  rw [answerWith, fetch, query, raised]
  rfl

/-! ## Both stores -/

/-- **When one more inbound whose settings are not JSON leaves an answer as it is**: always in
memory; and in a database exactly if the query can look into the settings all the same and the links
of the inbounds found before stay as they are, for which it is enough that the settings forward to
none of them; but never if the settings are no JSON for the database either. -/
theorem unreadable_inbound_iff {bad : Inbound} (linkable : bad.isLinkable)
    (unreadable : RawJson.parse? bad.settings = none) (options : SubscriptionOptions)
    (subId host : String) :
    (∀ before after, MemoryInbounds.bySubId (before ++ after) subId ≠ [] →
        SameAnswers options subId host (MemoryInbounds.store (before ++ after))
          (MemoryInbounds.store (before ++ bad :: after))) ∧
      ∀ (ws : List Database.Write) (next : Database) (found : List Inbound),
        (Database.afterWrites ws).addInbound bad = (next, true) →
        (Database.afterWrites ws).store.bySubId subId = .ok found → found ≠ [] →
        (SameAnswers options subId host (Database.afterWrites ws).store next.store ↔
            (∃ passes, Database.subscribes subId bad = .ok passes) ∧
              ∀ path, linksWith options subId host path next.store found =
                linksWith options subId host path (Database.afterWrites ws).store found) ∧
          ((∃ passes, Database.subscribes subId bad = .ok passes) →
            (∀ i ∈ found, i.isFallbackListener → Database.forwards i.listen bad = .ok false) →
            SameAnswers options subId host (Database.afterWrites ws).store next.store) ∧
          (JsonColumn.column bad.settings = .error .malformed → ∀ path,
            answerWith options subId host path next.store = .error malformedAnswer) := by
  refine ⟨fun before after found => sameAnswers_memory linkable unreadable options host found, ?_⟩
  intro ws next found added h ne
  have ordered := Database.ordered_afterWrites ws
  exact ⟨sameAnswers_database_iff ordered added linkable unreadable options host h ne,
    sameAnswers_database_of_forwards ordered added linkable unreadable options host h ne,
    fun malformed path => fetch_database_of_malformed ordered added linkable malformed options host
      path h⟩

/-- An inbound with one client. -/
def edge : Inbound where
  id := 1
  remark := "Edge"
  enable := true
  port := 443
  protocol := "vless"
  settings := "\x7b\"clients\":[\x7b\"id\":\"key\",\"email\":\"kim\"," ++
    "\"enable\":true,\"subId\":\"home\"\x7d]\x7d"
  streamSettings := "\x7b\x7d"

/-- An inbound whose settings break off. -/
def broken : Inbound := { edge with id := 2, port := 444, settings := "\x7bbroken" }

/-- The database that holds the first one. -/
def edgeDatabase : Database := Database.afterWrites [.addInbound edge]

/-- **The subscription of the first one is gone** once the second is there. -/
theorem fetch_fails_beside_broken :
    answerWith ⟨"-ieo", false⟩ "home" "h.example" "/" edgeDatabase.store =
        .ok (["vless://key@h.example:443?security=none&type=tcp#Edge-kim"],
          "upload=0; download=0; total=0; expire=0") ∧
      RawJson.parse? broken.settings = none ∧ (edgeDatabase.addInbound broken).2 = true ∧
      answerWith ⟨"-ieo", false⟩ "home" "h.example" "/" (edgeDatabase.addInbound broken).1.store =
        .error malformedAnswer := by
  refine ⟨?_, ?_, ?_, ?_⟩
  · decide +kernel
  · exact Option.isNone_iff_eq_none.1 (by decide +kernel)
  · decide +kernel
  · decide +kernel

/-- Beside the second one, the answers for the first stay the same in memory, but not in the
database. -/
theorem sameAnswers_beside_broken :
    SameAnswers ⟨"-ieo", false⟩ "home" "h.example" (MemoryInbounds.store ([edge] ++ []))
        (MemoryInbounds.store ([edge] ++ broken :: [])) ∧
      ¬ SameAnswers ⟨"-ieo", false⟩ "home" "h.example" edgeDatabase.store
        (edgeDatabase.addInbound broken).1.store := by
  have linkable : broken.isLinkable := by decide +kernel
  have unreadable : RawJson.parse? broken.settings = none :=
    Option.isNone_iff_eq_none.1 (by decide +kernel)
  obtain ⟨memory, database⟩ :=
    unreadable_inbound_iff linkable unreadable ⟨"-ieo", false⟩ "home" "h.example"
  refine ⟨memory [edge] [] (by decide +kernel), fun same => ?_⟩
  have added : edgeDatabase.addInbound broken = ((edgeDatabase.addInbound broken).1, true) :=
    Prod.ext rfl (by decide +kernel)
  have found : edgeDatabase.store.bySubId "home" = .ok [edge] := by decide +kernel
  have raised : Database.subscribes "home" broken = .error .malformed := by decide +kernel
  obtain ⟨passes, looked⟩ :=
    ((database [.addInbound edge] _ _ added found (List.cons_ne_nil _ _)).1.1 same).1
  rw [raised] at looked
  cases looked

end Subscription
end ProxyFeed
