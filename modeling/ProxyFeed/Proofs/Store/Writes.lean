import ProxyFeed.Store.Database
import Mathlib.Data.List.Basic

/-!
# Databases and their writes

A database is whatever a list of writes makes of the empty one.  Its rows stay in the order of their
identifiers, so a new row goes between two parts of the table and moves nothing else.

## What is here

* `Database.Write` and `Database.afterWrites` — the writes, and the databases they lead to.
* `Database.Ordered` — the invariant, and `Database.ordered_afterWrites`: every database has it.
* `Database.addInbound_eq_added` — what adding an inbound does to the tables.
-/

set_option autoImplicit false
namespace ProxyFeed

/-! ## Inserting by key -/

section InsertByKey

variable {α : Type} {key : α → Int64} {k : Int64}

/-- A list by increasing key falls into the part below a key and the rest. -/
theorem filter_append_filter_of_ordered {l : List α} (h : (l.map key).Pairwise (· < ·)) :
    l.filter (key · < k) ++ l.filter (fun x => !decide (key x < k)) = l := by
  induction l with
  | nil => rfl
  | cons x l ih =>
    rw [List.map_cons, List.pairwise_cons] at h
    by_cases hx : key x < k
    · simp [hx, ih h.2]
    · have above : ∀ y ∈ l, ¬ key y < k := by
        intro y hy hk
        exact hx (Int64.lt_trans (h.1 _ (List.mem_map_of_mem hy)) hk)
      have none_below : l.filter (key · < k) = [] := by
        simpa [List.filter_eq_nil_iff] using above
      have rest := ih h.2
      rw [none_below, List.nil_append] at rest
      simp [hx, none_below, rest]

/-- Inserting a new key at its place keeps the order. -/
theorem ordered_insert {l : List α} {x : α} (h : (l.map key).Pairwise (· < ·))
    (new : ∀ y ∈ l, key y ≠ key x) :
    ((l.filter (key · < key x) ++ x :: l.filter fun y => !decide (key y < key x)).map
      key).Pairwise (· < ·) := by
  rw [List.map_append, List.map_cons, List.pairwise_append, List.pairwise_cons]
  have below : ∀ i ∈ (l.filter (key · < key x)).map key, i < key x := by
    intro i hi
    obtain ⟨y, hy, rfl⟩ := List.mem_map.1 hi
    simpa using (List.mem_filter.1 hy).2
  have above : ∀ i ∈ (l.filter fun y => !decide (key y < key x)).map key, key x < i := by
    intro i hi
    obtain ⟨y, hy, rfl⟩ := List.mem_map.1 hi
    obtain ⟨member, not_below⟩ := List.mem_filter.1 hy
    have ge : ¬ key y < key x := by simpa using not_below
    exact Int64.lt_of_le_of_ne (Int64.not_lt.1 ge) (Ne.symm (new y member))
  refine ⟨h.sublist (List.filter_sublist.map key), ⟨above, h.sublist
    (List.filter_sublist.map key)⟩, ?_⟩
  intro i hi j hj
  rcases List.mem_cons.1 hj with rfl | later
  · exact below i hi
  · exact Int64.lt_trans (below i hi) (above j later)

end InsertByKey

namespace Database

/-! ## Writes -/

/-- A change to the tables. -/
inductive Write where
  | addInbound (i : Inbound)
  | deleteInbound (id : Int64)
  | setSettings (id : Int64) (settings : String)
  | appendTraffic (t : Traffic)
  | setCache (cache : CacheTable)

/-- A database after a write; a refused write leaves what was written before it was refused. -/
def apply (db : Database) : Write → Database
  | .addInbound i => (db.addInbound i).1
  | .deleteInbound id => db.deleteInbound id
  | .setSettings id settings => db.setSettings id settings
  | .appendTraffic t => (db.appendTraffic t).getD db
  | .setCache cache => { db with cache }

/-- The database that a list of writes leads to. -/
def afterWrites (ws : List Write) : Database := ws.foldl apply {}

/-- Rows stand by increasing identifier. -/
structure Ordered (db : Database) : Prop where
  inbounds : (db.inbounds.map (·.id)).Pairwise (· < ·)
  traffic : (db.traffic.map (·.id)).Pairwise (· < ·)

/-- A traffic row goes between the rows before and after it. -/
theorem insertTraffic_eq_some {db next : Database} {t : Traffic}
    (h : db.insertTraffic t = some next) :
    (∀ r ∈ db.traffic, r.id ≠ t.id) ∧ next.inbounds = db.inbounds ∧
      next.traffic = db.traffic.filter (·.id < t.id) ++
        t :: db.traffic.filter fun r => !decide (r.id < t.id) := by
  rw [insertTraffic] at h
  split at h
  · cases h
  · next free =>
    rw [List.partition_eq_filter_filter] at h
    obtain rfl := Option.some.inj h
    refine ⟨fun r hr same => free (.inl ?_), rfl, rfl⟩
    exact List.any_eq_true.2 ⟨r, hr, by simp [same]⟩

theorem Ordered.insertTraffic {db next : Database} {t : Traffic} (h : db.Ordered)
    (inserted : db.insertTraffic t = some next) :
    next.Ordered ∧ next.inbounds = db.inbounds ∧
      ∀ id, id ≠ t.inboundId → next.clientStats id = db.clientStats id := by
  obtain ⟨new, inbounds, traffic⟩ := insertTraffic_eq_some inserted
  refine ⟨⟨inbounds ▸ h.inbounds, ?_⟩, inbounds, fun id other => ?_⟩
  · rw [traffic]
    exact ordered_insert h.traffic new
  · rw [clientStats, clientStats, traffic, List.filter_append, List.filter_cons_of_neg,
      ← List.filter_append, filter_append_filter_of_ordered h.traffic]
    simpa using Ne.symm other

theorem Ordered.insertAllTraffic {id : Int64} : ∀ {ts : List Traffic} {db : Database},
    db.Ordered → (∀ t ∈ ts, t.inboundId = id) →
      (db.insertAllTraffic ts).1.Ordered ∧ (db.insertAllTraffic ts).1.inbounds = db.inbounds ∧
        ∀ other, other ≠ id → (db.insertAllTraffic ts).1.clientStats other = db.clientStats other
  | [], db, h, _ => ⟨h, rfl, fun _ _ => rfl⟩
  | t :: ts, db, h, own => by
    rw [Database.insertAllTraffic]
    split
    · next next inserted =>
      obtain ⟨ordered, inbounds, stats⟩ := h.insertTraffic inserted
      obtain ⟨ordered', inbounds', stats'⟩ :=
        ordered.insertAllTraffic fun u hu => own u (List.mem_cons_of_mem _ hu)
      refine ⟨ordered', inbounds'.trans inbounds, fun other ne => ?_⟩
      rw [stats' other ne, stats other (own t List.mem_cons_self ▸ ne)]
    · exact ⟨h, rfl, fun _ _ => rfl⟩

/-- An inbound goes between the rows before and after it. -/
theorem insertInbound_eq_some {db next : Database} {i : Inbound}
    (h : db.insertInbound i = some next) :
    (∀ r ∈ db.inbounds, r.id ≠ i.id) ∧ next.traffic = db.traffic ∧
      next.inbounds = db.inbounds.filter (·.id < i.id) ++
        { i with clientStats := [] } :: db.inbounds.filter fun r => !decide (r.id < i.id) := by
  rw [insertInbound] at h
  split at h
  · cases h
  · next free =>
    rw [List.partition_eq_filter_filter] at h
    obtain rfl := Option.some.inj h
    refine ⟨fun r hr same => free ?_, rfl, rfl⟩
    exact List.any_eq_true.2 ⟨r, hr, by simp [same]⟩

theorem Ordered.insertInbound {db next : Database} {i : Inbound} (h : db.Ordered)
    (inserted : db.insertInbound i = some next) : next.Ordered := by
  obtain ⟨new, traffic, inbounds⟩ := insertInbound_eq_some inserted
  have placed :=
    @ordered_insert Inbound (·.id) db.inbounds { i with clientStats := [] } h.inbounds new
  rw [← inbounds] at placed
  refine ⟨placed, ?_⟩
  rw [traffic]
  exact h.traffic

/-- The traffic rows that come with an inbound. -/
def ownTraffic (i : Inbound) : List Traffic :=
  i.clientStats.map fun t => { t with inboundId := i.id }

theorem inboundId_of_mem_ownTraffic {i : Inbound} : ∀ t ∈ ownTraffic i, t.inboundId = i.id := by
  intro t ht
  obtain ⟨u, -, rfl⟩ := List.mem_map.1 ht
  rfl

theorem Ordered.addInbound {db : Database} (h : db.Ordered) (i : Inbound) :
    (db.addInbound i).1.Ordered := by
  rw [Database.addInbound]
  split
  · next next inserted =>
    exact ((h.insertInbound inserted).insertAllTraffic inboundId_of_mem_ownTraffic).1
  · exact h

theorem Ordered.apply {db : Database} (h : db.Ordered) (w : Write) : (db.apply w).Ordered := by
  cases w with
  | addInbound i => exact h.addInbound i
  | deleteInbound id =>
    exact ⟨h.inbounds.sublist (List.filter_sublist.map _),
      h.traffic.sublist (List.filter_sublist.map _)⟩
  | setSettings id settings =>
    refine ⟨?_, h.traffic⟩
    have ids : ((db.setSettings id settings).inbounds.map (·.id)) = db.inbounds.map (·.id) := by
      rw [setSettings, List.map_map]
      refine List.map_congr_left fun i _ => ?_
      rw [Function.comp_apply]
      split <;> rfl
    show ((db.setSettings id settings).inbounds.map (·.id)).Pairwise (· < ·)
    rw [ids]
    exact h.inbounds
  | appendTraffic t =>
    show ((db.appendTraffic t).getD db).Ordered
    cases appended : db.appendTraffic t with
    | none => exact h
    | some next =>
      rw [appendTraffic] at appended
      split at appended
      · cases appended
      · exact (h.insertTraffic appended).1
  | setCache cache => exact ⟨h.inbounds, h.traffic⟩

/-- **Every database has its rows in order.** -/
theorem ordered_afterWrites (ws : List Write) : (afterWrites ws).Ordered := by
  have run : ∀ (ws : List Write) (db : Database), db.Ordered → (ws.foldl apply db).Ordered := by
    intro ws
    induction ws with
    | nil => exact fun db h => h
    | cons w ws ih => exact fun db h => ih _ (h.apply w)
  exact run ws {} ⟨.nil, .nil⟩

/-- **A new inbound goes between two parts of the table**; the traffic of the others stays. -/
theorem addInbound_eq_added {db next : Database} {i : Inbound} (h : db.Ordered)
    (added : db.addInbound i = (next, true)) :
    ∃ before after, db.inbounds = before ++ after ∧
      next.inbounds = before ++ { i with clientStats := [] } :: after ∧
      (∀ r ∈ db.inbounds, r.id ≠ i.id) ∧
      ∀ id, id ≠ i.id → next.clientStats id = db.clientStats id := by
  rw [Database.addInbound] at added
  split at added
  · next inserted_ inserted =>
    obtain ⟨new, traffic, inbounds⟩ := insertInbound_eq_some inserted
    obtain ⟨-, inbounds', stats⟩ := (h.insertInbound inserted).insertAllTraffic
      (inboundId_of_mem_ownTraffic (i := i))
    have next_eq : (inserted_.insertAllTraffic (ownTraffic i)).1 = next := congrArg Prod.fst added
    rw [next_eq] at inbounds' stats
    refine ⟨_, _, (filter_append_filter_of_ordered h.inbounds).symm, inbounds'.trans inbounds, new,
      fun id other => ?_⟩
    rw [stats id other, clientStats, clientStats, traffic]
  · cases added

end Database
end ProxyFeed
