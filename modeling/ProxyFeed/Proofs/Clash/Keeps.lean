import ProxyFeed.Service.Backend
import Mathlib.Data.List.Basic

/-!
# Caches keep what they are given

What is in a cache was written to it: a write adds nothing but the entry it was given.

## What is here

* `CacheStore.Keeps` — the law, for a cache whose entries can be listed.
* `CacheStore.Keeps.outage` — operations that are down do not break it.
* `MemoryCache.keeps`, `CacheTable.keeps` and `Backend.keeps` — the caches of this program obey it.
-/

set_option autoImplicit false
namespace ProxyFeed

/-- A cache holds the entries it was given: it finds only what it holds, and a write adds nothing
but the written entry. -/
structure CacheStore.Keeps {κ : Type} (cache : CacheStore κ) (entries : κ → List CacheEntry) :
    Prop where
  mem_of_find? : ∀ {state email e}, cache.find? state email = .ok (some e) →
    e ∈ entries state ∧ e.email = email
  mem_of_insert : ∀ {state e id next}, cache.insert state e = .ok (id, next) →
    ∀ x ∈ entries next, x ∈ entries state ∨ x = { e with id := id }
  mem_of_update : ∀ {state e next}, cache.update state e = .ok next →
    ∀ x ∈ entries next, x ∈ entries state ∨ x = e

/-! ## Outages -/

theorem Outage.guard_eq_ok {α : Type} {o : Outage} {op : Operation} {result : Except Fault α}
    {a : α} (h : o.guard op result = .ok a) : result = .ok a := by
  rw [guard] at h
  split at h
  · cases h
  · exact h

/-- An outage adds nothing. -/
theorem CacheStore.Keeps.outage {κ : Type} {cache : CacheStore κ} {entries : κ → List CacheEntry}
    (keeps : cache.Keeps entries) (o : Outage) : (o.cache cache).Keeps entries where
  mem_of_find? h := keeps.mem_of_find? (Outage.guard_eq_ok h)
  mem_of_insert h := keeps.mem_of_insert (Outage.guard_eq_ok h)
  mem_of_update h := keeps.mem_of_update (Outage.guard_eq_ok h)

/-! ## The caches -/

namespace MemoryCache

theorem insert_eq_ok {c next : MemoryCache} {e : CacheEntry} {id : Int64}
    (h : store.insert c e = .ok (id, next)) : next.entries = c.entries ++ [{ e with id }] := by
  simp only [store] at h
  split at h
  · cases h
  · obtain ⟨rfl, rfl⟩ := Prod.mk.inj (Except.ok.inj h)
    rfl

theorem update_eq_ok {c next : MemoryCache} {e : CacheEntry} (h : store.update c e = .ok next) :
    next.entries = replace e c.entries := by
  simp only [store] at h
  split at h
  · cases h
  · obtain rfl := Except.ok.inj h
    rfl

theorem mem_of_mem_replace {e x : CacheEntry} :
    ∀ {entries : List CacheEntry}, x ∈ replace e entries → x ∈ entries ∨ x = e
  | [], h => .inl h
  | y :: entries, h => by
    rw [replace] at h
    split at h
    · rcases List.mem_cons.1 h with rfl | later
      · exact .inr rfl
      · exact .inl (List.mem_cons_of_mem _ later)
    · rcases List.mem_cons.1 h with rfl | later
      · exact .inl List.mem_cons_self
      · exact (mem_of_mem_replace later).imp_left (List.mem_cons_of_mem _)

theorem keeps : store.Keeps (·.entries) where
  mem_of_find? {_ _ _} h := by
    have found := Except.ok.inj h
    exact ⟨List.mem_of_find?_eq_some found, by simpa using List.find?_some found⟩
  mem_of_insert {_ _ _ _} h x hx := by
    rw [insert_eq_ok h] at hx
    simpa using hx
  mem_of_update {_ _ _} h x hx := by
    rw [update_eq_ok h] at hx
    exact mem_of_mem_replace hx

end MemoryCache

namespace CacheTable

/-- An insertion appends the entry under the next identifier; its e-mail is new. -/
theorem insert_eq_ok {t next : CacheTable} {e : CacheEntry} {id : Int64}
    (h : store.insert t e = .ok (id, next)) :
    (∀ r ∈ t.rows, r.email ≠ e.email) ∧ t.lastId ≠ Int64.maxValue ∧ id = t.lastId + 1 ∧
      next = ⟨t.rows ++ [{ e with id }], id⟩ := by
  simp only [store] at h
  split at h
  · cases h
  · next free =>
    obtain ⟨rfl, rfl⟩ := Prod.mk.inj (Except.ok.inj h)
    simpa using free

/-- An update overwrites the entry with the same identifier; no other one has its e-mail. -/
theorem update_eq_ok {t next : CacheTable} {e : CacheEntry} (h : store.update t e = .ok next) :
    ((∃ r ∈ t.rows, r.id = e.id) → ∀ r ∈ t.rows, r.email = e.email → r.id = e.id) ∧
      next = { t with rows := t.rows.map fun r => if r.id = e.id then e else r } := by
  simp only [store] at h
  split at h
  · cases h
  · next free =>
    obtain rfl := Except.ok.inj h
    refine ⟨?_, rfl⟩
    rintro there r hr email
    by_contra other
    exact free (by simpa using ⟨there, r, hr, other, email⟩)

theorem keeps : store.Keeps (·.rows) where
  mem_of_find? {_ _ _} h := by
    have found := Except.ok.inj h
    exact ⟨List.mem_of_find?_eq_some found, by simpa using List.find?_some found⟩
  mem_of_insert {_ _ _ _} h x hx := by
    obtain ⟨-, -, -, rfl⟩ := insert_eq_ok h
    simpa using hx
  mem_of_update {_ _ _} h x hx := by
    obtain ⟨-, rfl⟩ := update_eq_ok h
    obtain ⟨r, hr, rfl⟩ := List.mem_map.1 hx
    split
    · exact .inr rfl
    · exact .inl hr

end CacheTable

namespace Backend

/-- A mapped result comes from a result. -/
theorem exists_of_map_eq_ok {ε α β : Type} {f : α → β} {result : Except ε α} {b : β}
    (h : result.map f = .ok b) : ∃ a, result = .ok a ∧ f a = b := by
  cases result with
  | error e => cases h
  | ok a => exact ⟨a, rfl, Except.ok.inj h⟩

theorem keeps : cacheStore.Keeps entries where
  mem_of_find? {state email e} h := by
    cases state with
    | memory inbounds cache => exact MemoryCache.keeps.mem_of_find? h
    | database db => exact CacheTable.keeps.mem_of_find? h
  mem_of_insert {state e id next} h := by
    cases state with
    | memory inbounds cache =>
      obtain ⟨r, written, same⟩ := exists_of_map_eq_ok h
      obtain ⟨rfl, rfl⟩ := Prod.mk.inj same
      exact MemoryCache.keeps.mem_of_insert written
    | database db =>
      obtain ⟨r, written, same⟩ := exists_of_map_eq_ok h
      obtain ⟨rfl, rfl⟩ := Prod.mk.inj same
      exact CacheTable.keeps.mem_of_insert written
  mem_of_update {state e next} h := by
    cases state with
    | memory inbounds cache =>
      obtain ⟨c, written, rfl⟩ := exists_of_map_eq_ok h
      exact MemoryCache.keeps.mem_of_update written
    | database db =>
      obtain ⟨c, written, rfl⟩ := exists_of_map_eq_ok h
      exact CacheTable.keeps.mem_of_update written

end Backend
end ProxyFeed
