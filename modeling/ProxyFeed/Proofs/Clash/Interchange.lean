import ProxyFeed.Proofs.Clash.Retention

/-!
# The two caches are interchangeable

Documents are kept in a list in memory, or in a table of a database.  The two disagree where entries
have the same e-mail, which the table refuses and the list takes, and on identifiers: the list
counts its entries, and the table counts on from the last identifier it gave.  Requests that come
one after the other never get there.  Each looks its e-mail up before it writes, so no e-mail is
inserted twice, and as nothing is ever removed, the last identifier is the number of entries.

## What is here

* `Clash.Mirrors` — a list and a table hold the same entries: the invariant of all runs.
* `Clash.Mirrors.record` and `Clash.Mirrors.serve` — writing a document down, and a whole request,
  keep it.
* `Clash.history` — what a run of requests is answered, what it sends to the converter, and the
  entries after each request.
* `Clash.history_memory_eq_table` — both caches have the same history.
-/

set_option autoImplicit false
namespace ProxyFeed

/-- Where identifiers differ, overwriting the first entry with an identifier overwrites all. -/
theorem MemoryCache.replace_eq_map (e : CacheEntry) {entries : List CacheEntry}
    (distinct : (entries.map (·.id)).Nodup) :
    replace e entries = entries.map fun r => if r.id = e.id then e else r := by
  induction entries with
  | nil => rfl
  | cons x xs ih =>
    obtain ⟨new, rest⟩ := List.nodup_cons.1 distinct
    rw [replace, List.map_cons]
    split
    · next same =>
      have others : ∀ r ∈ xs, (if r.id = e.id then e else r) = r := by
        intro r hr
        have ne : r.id ≠ e.id := fun clash => new (List.mem_map.2 ⟨r, hr, clash.trans same.symm⟩)
        rw [if_neg ne]
      rw [List.map_congr_left others, List.map_id']
    · rw [ih rest]

namespace CacheTable

/-- An entry with a new e-mail is taken, as long as there are identifiers left. -/
theorem insert_of_free {t : CacheTable} {e : CacheEntry} (free : ∀ r ∈ t.rows, r.email ≠ e.email)
    (more : t.lastId ≠ Int64.maxValue) : store.insert t e =
      .ok (t.lastId + 1, ⟨t.rows ++ [{ e with id := t.lastId + 1 }], t.lastId + 1⟩) := by
  have open_ : ¬ (t.rows.any (·.email = e.email) ∨ t.lastId = Int64.maxValue) := by
    simpa [more] using free
  simp only [store, if_neg open_]

/-- An entry is overwritten if no other one has its e-mail. -/
theorem update_of_own {t : CacheTable} {e : CacheEntry}
    (own : ∀ r ∈ t.rows, r.email = e.email → r.id = e.id) : store.update t e =
      .ok { t with rows := t.rows.map fun r => if r.id = e.id then e else r } := by
  have open_ : ¬ (t.rows.any (·.id = e.id) ∧
      t.rows.any fun r => r.id ≠ e.id ∧ r.email = e.email) := by
    rintro ⟨-, another⟩
    obtain ⟨r, hr, clash⟩ := List.any_eq_true.1 another
    obtain ⟨other, same⟩ := of_decide_eq_true clash
    exact other (own r hr same)
  simp only [store, if_neg open_]

end CacheTable

namespace Clash

/-! ## Equal entries -/

/-- A list that takes writes and a table hold the same entries, numbered from one as they came. -/
structure Mirrors (c : MemoryCache) (t : CacheTable) : Prop where
  writable : c.readOnly = false
  numbered : c.Numbered
  rows : t.rows = c.entries
  lastId : t.lastId = Int64.ofNat c.entries.length

theorem mirrors_empty : Mirrors {} {} := ⟨rfl, MemoryCache.numbered_of_empty rfl, rfl, rfl⟩

section Mirrors

variable {c : MemoryCache} {t : CacheTable} {email print document : String} {now : Int64}

theorem Mirrors.find? (h : Mirrors c t) (email : String) :
    CacheTable.store.find? t email = .ok (c.lookup email) := by
  show Except.ok (t.rows.find? (·.email = email)) = _
  rw [h.rows]
  rfl

/-- The number of entries is a number the table can still count on from. -/
theorem ofNat_ne_maxValue {n : Nat} (h : n + 1 < 2 ^ 63) : Int64.ofNat n ≠ Int64.maxValue := by
  intro same
  have values := congrArg Int64.toInt same
  rw [Int64.toInt_ofNat_of_lt (by omega), Int64.toInt_maxValue] at values
  omega

/-- An e-mail without an entry gets one under the same identifier in both. -/
theorem Mirrors.insert (h : Mirrors c t) (absent : c.lookup email = none)
    (room : c.entries.length + 1 < 2 ^ 63) :
    Mirrors (record MemoryCache.store c none email print document now)
      (record CacheTable.store t none email print document now) := by
  have numbered : (record MemoryCache.store c none email print document now).Numbered :=
    (MemoryCache.wrote_insert h.numbered absent).numbered
  have free : ∀ r ∈ t.rows, r.email ≠ email := by
    rw [h.rows]
    simpa using List.find?_eq_none.1 absent
  have more : t.lastId ≠ Int64.maxValue := h.lastId ▸ ofNat_ne_maxValue room
  have next_id : t.lastId + 1 = Int64.ofNat (c.entries.length + 1) := by
    rw [h.lastId, Int64.ofNat_add]
    rfl
  have list : record MemoryCache.store c none email print document now =
      { c with entries := c.entries ++
        [⟨Int64.ofNat (c.entries.length + 1), email, print, document, now, now⟩] } := by
    simp [record, MemoryCache.store, h.writable, renewed]
  have table : record CacheTable.store t none email print document now =
      ⟨c.entries ++ [⟨Int64.ofNat (c.entries.length + 1), email, print, document, now, now⟩],
        Int64.ofNat (c.entries.length + 1)⟩ := by
    rw [record, renewed, CacheTable.insert_of_free free more, next_id, h.rows]
  refine ⟨?_, numbered, ?_, ?_⟩
  · rw [list]
    exact h.writable
  · rw [list, table]
  · rw [list, table, List.length_append, List.length_singleton]

/-- An e-mail with an entry keeps it, with the same new contents in both. -/
theorem Mirrors.update (h : Mirrors c t) (room : c.entries.length < 2 ^ 63) {e : CacheEntry}
    (found : c.lookup email = some e) :
    Mirrors (record MemoryCache.store c (some e) email print document now)
      (record CacheTable.store t (some e) email print document now) := by
  have numbered : (record MemoryCache.store c (some e) email print document now).Numbered :=
    (MemoryCache.wrote_update h.numbered room found).numbered
  have there : e ∈ c.entries := List.mem_of_find?_eq_some found
  let new := renewed (some e) email print document now
  have own : ∀ r ∈ t.rows, r.email = new.email → r.id = new.id := by
    rw [h.rows]
    intro r hr (same : r.email = e.email)
    rw [List.inj_on_of_nodup_map h.numbered.apart hr there same]
    rfl
  have list : record MemoryCache.store c (some e) email print document now =
      { c with entries := MemoryCache.replace new c.entries } := by
    simp [record, MemoryCache.store, h.writable, new]
  have table : record CacheTable.store t (some e) email print document now =
      { t with rows := MemoryCache.replace new c.entries } := by
    rw [MemoryCache.replace_eq_map new (h.numbered.nodup_ids room), ← h.rows, record,
      CacheTable.update_of_own own]
  refine ⟨?_, numbered, ?_, ?_⟩
  · rw [list]
    exact h.writable
  · rw [list, table]
  · rw [list, table, MemoryCache.length_replace]
    exact h.lastId

/-- **Writing a document down keeps a list and a table equal**, as long as the list stays one that
can be counted. -/
theorem Mirrors.record (h : Mirrors c t)
    (room : (record MemoryCache.store c (c.lookup email) email print document now).entries.length <
      2 ^ 63) :
    Mirrors (Clash.record MemoryCache.store c (c.lookup email) email print document now)
      (Clash.record CacheTable.store t (c.lookup email) email print document now) := by
  cases found : c.lookup email with
  | none =>
    rw [found] at room
    refine h.insert found ?_
    simpa [Clash.record, MemoryCache.store, h.writable] using room
  | some e =>
    have kept := (MemoryCache.length_record c (c.lookup email) email print document now).1
    exact h.update (Nat.lt_of_le_of_lt kept room) found

end Mirrors

/-! ## Requests one after the other -/

/-- Serves a request over a cache of any kind.  Whether writes are refused is up to the state of the
cache; the request has no say in it here. -/
def Request.servedBy {κ : Type} (cache : CacheStore κ) (options : ClashOptions) (r : Request)
    (state : κ) : Outcome κ :=
  serve r.store cache r.convert options r.now state r.email r.host

/-- What is seen of a request: its answer, the link it sent to the converter, and the entries of the
cache after it. -/
structure Turn where
  answer : Except Failure String
  sent : Option String
  entries : List CacheEntry

/-- What is seen of requests that come one after the other. -/
def history {κ : Type} (cache : CacheStore κ) (entries : κ → List CacheEntry)
    (options : ClashOptions) : κ → List Request → List Turn
  | _, [] => []
  | state, r :: rs =>
    let outcome := r.servedBy cache options state
    ⟨outcome.answer, outcome.sent, entries outcome.cache⟩ ::
      history cache entries options outcome.cache rs

section History

variable {options : ClashOptions} {c : MemoryCache} {t : CacheTable}

/-- **One request does the same over a list and an equal table**, and leaves them equal. -/
theorem Mirrors.serve (h : Mirrors c t) (r : Request)
    (room : (r.servedBy MemoryCache.store options c).cache.entries.length < 2 ^ 63) :
    (r.servedBy MemoryCache.store options c).answer =
        (r.servedBy CacheTable.store options t).answer ∧
      (r.servedBy MemoryCache.store options c).sent =
        (r.servedBy CacheTable.store options t).sent ∧
      Mirrors (r.servedBy MemoryCache.store options c).cache
        (r.servedBy CacheTable.store options t).cache := by
  have found : MemoryCache.store.find? c r.email = .ok (c.lookup r.email) := rfl
  rw [Request.servedBy, Clash.serve, found] at room ⊢
  rw [Request.servedBy, Clash.serve, h.find?]
  cases prepared : prepare r.store options r.email r.host with
  | error failure => exact ⟨rfl, rfl, h⟩
  | ok p =>
    rw [prepared] at room
    dsimp only at room ⊢
    cases hit : cachedAnswer? (fingerprint p.link) (c.lookup r.email) with
    | some document => exact ⟨rfl, rfl, h⟩
    | none =>
      rw [hit] at room
      dsimp only at room ⊢
      cases converted : r.convert p.link with
      | error fault => exact ⟨rfl, rfl, h⟩
      | ok text =>
        rw [converted] at room
        exact ⟨rfl, rfl, h.record room⟩

theorem history_eq_of_mirrors {rs : List Request} (h : Mirrors c t)
    (room : ∀ turn ∈ history MemoryCache.store (·.entries) options c rs,
      turn.entries.length < 2 ^ 63) :
    history MemoryCache.store (·.entries) options c rs =
      history CacheTable.store (·.rows) options t rs := by
  induction rs generalizing c t with
  | nil => rfl
  | cons r rs ih =>
    obtain ⟨room_now, room_later⟩ := List.forall_mem_cons.1 room
    obtain ⟨answer, sent, mirrors⟩ := h.serve r room_now
    rw [history, history, answer, sent, mirrors.rows, ih mirrors room_later]

/-- A run adds no more entries than it has requests. -/
theorem length_entries_history {rs : List Request} :
    ∀ turn ∈ history MemoryCache.store (·.entries) options c rs,
      turn.entries.length ≤ c.entries.length + rs.length := by
  induction rs generalizing c with
  | nil => exact fun _ h => absurd h List.not_mem_nil
  | cons r rs ih =>
    have added : (r.servedBy MemoryCache.store options c).cache.entries.length ≤
        c.entries.length + 1 := (Request.length_outcome { r with readOnly := c.readOnly } c).2
    rw [history, List.forall_mem_cons]
    refine ⟨Nat.le_trans added (by simp), fun turn later => ?_⟩
    have step := ih turn later
    rw [List.length_cons]
    exact Nat.le_trans step (Nat.le_trans (Nat.add_le_add_right added _) (by omega))

/-- **The two caches are interchangeable**: requests one after the other, from empty caches that
take every write, get the same answers, send the same links to the converter, and leave the same
entries behind after each of them; whatever inbounds, clock and converter each request meets.  The
list is assumed to be one that memory can hold, as any list of the program is; by
`length_entries_history` it has no more entries than there are requests. -/
theorem history_memory_eq_table (options : ClashOptions) (rs : List Request)
    (room : ∀ turn ∈ history MemoryCache.store (·.entries) options {} rs,
      turn.entries.length < 2 ^ 63) :
    history MemoryCache.store (·.entries) options {} rs =
      history CacheTable.store (·.rows) options {} rs :=
  history_eq_of_mirrors mirrors_empty room

/-- Two clients that take turns: a conversion that fails, one that succeeds, an answer from the
cache, and a link that changes. -/
def mixedTurns : List Request :=
  [asks "kim" "h.example" 443 portConverter, asks "lee" "h.example" 443 brokenConverter,
    asks "lee" "h.example" 443 portConverter, asks "kim" "h.example" 443 brokenConverter,
    asks "kim" "i.example" 8443 portConverter]

/-- The table ends up with the two entries that the list has. -/
theorem history_memory_eq_table_mixedTurns :
    history MemoryCache.store (·.entries) plainOptions {} mixedTurns =
        history CacheTable.store (·.rows) plainOptions {} mixedTurns ∧
      ((history CacheTable.store (·.rows) plainOptions {} mixedTurns).map fun turn =>
          (turn.sent.isSome, turn.entries.map fun e => (e.id, e.email, e.yamlContent))) =
        [(true, [(1, "kim", "port: 443")]), (true, [(1, "kim", "port: 443")]),
          (true, [(1, "kim", "port: 443"), (2, "lee", "port: 443")]),
          (false, [(1, "kim", "port: 443"), (2, "lee", "port: 443")]),
          (true, [(1, "kim", "port: 8443"), (2, "lee", "port: 443")])] := by
  have room : ∀ turn ∈ history MemoryCache.store (·.entries) plainOptions {} mixedTurns,
      turn.entries.length < 2 ^ 63 := fun turn h =>
    Nat.lt_of_le_of_lt (length_entries_history turn h) (by decide)
  have same := history_memory_eq_table plainOptions mixedTurns room
  refine ⟨same, ?_⟩
  rw [← same]
  decide +kernel

end History
end Clash
end ProxyFeed
