import ProxyFeed.Proofs.Clash.Interchange

/-!
# Failures leave no trace

Every store that a request depends on may fail, and so may the converter.  A request that is not
answered leaves the cache as it was, and the converter hears of it only if everything before the
conversion went well.  Once the link is converted the request is answered, whether or not the
document can be written down.

A write is addressed by identifier, but meant for an e-mail.  As long as both differ among the
entries, it renews the one entry that was found, or adds one.

## What is here

* `CacheStore.MayFail` — a cache that fails now and then.
* `Backend.insert_eq_ok` and `Backend.update_eq_ok` — what a write does to the entries.
* `Clash.write` — the attempt to write a document down, and `Clash.Rewrites`, what it changes.
* `Clash.Exit.congr_convert` — the converter matters through what it makes of the link that is sent.
* `Clash.serve_leaves_no_trace` — all ways a request can end.
-/

set_option autoImplicit false
namespace ProxyFeed

/-! ## Caches that fail now and then -/

/-- Operations that may fail for reasons of their own, and otherwise do what those of a cache do. -/
structure CacheStore.MayFail {κ : Type} (faulty cache : CacheStore κ) : Prop where
  find? : ∀ {state email found}, faulty.find? state email = .ok found →
    cache.find? state email = .ok found
  insert : ∀ {state e added}, faulty.insert state e = .ok added → cache.insert state e = .ok added
  update : ∀ {state e next}, faulty.update state e = .ok next → cache.update state e = .ok next

theorem Outage.mayFail {κ : Type} (o : Outage) (cache : CacheStore κ) :
    (o.cache cache).MayFail cache :=
  ⟨guard_eq_ok, guard_eq_ok, guard_eq_ok⟩

namespace Backend

theorem find?_eq (state : Backend) (email : String) :
    cacheStore.find? state email = .ok (state.entries.find? (·.email = email)) := by
  cases state <;> rfl

/-- An insertion adds an entry at the end, and leaves the inbounds alone. -/
theorem insert_eq_ok {state next : Backend} {e : CacheEntry} {id : Int64}
    (h : cacheStore.insert state e = .ok (id, next)) :
    next.entries = state.entries ++ [{ e with id }] ∧ next.inboundStore = state.inboundStore := by
  cases state with
  | memory inbounds cache =>
    obtain ⟨r, written, same⟩ := exists_of_map_eq_ok h
    obtain ⟨rfl, rfl⟩ := Prod.mk.inj same
    exact ⟨MemoryCache.insert_eq_ok written, rfl⟩
  | database db =>
    obtain ⟨r, written, same⟩ := exists_of_map_eq_ok h
    obtain ⟨rfl, rfl⟩ := Prod.mk.inj same
    obtain ⟨-, -, -, rows⟩ := CacheTable.insert_eq_ok written
    exact ⟨congrArg CacheTable.rows rows, rfl⟩

/-- An update overwrites the entry with the same identifier, and leaves the inbounds alone. -/
theorem update_eq_ok {state next : Backend} (ids : (state.entries.map (·.id)).Nodup)
    {e : CacheEntry} (h : cacheStore.update state e = .ok next) :
    next.entries = state.entries.map (fun r => if r.id = e.id then e else r) ∧
      next.inboundStore = state.inboundStore := by
  cases state with
  | memory inbounds cache =>
    obtain ⟨c, written, rfl⟩ := exists_of_map_eq_ok h
    exact ⟨(MemoryCache.update_eq_ok written).trans (MemoryCache.replace_eq_map e ids), rfl⟩
  | database db =>
    obtain ⟨c, written, rfl⟩ := exists_of_map_eq_ok h
    obtain ⟨-, rows⟩ := CacheTable.update_eq_ok written
    exact ⟨congrArg CacheTable.rows rows, rfl⟩

end Backend

namespace Clash

/-! ## Writing a document down -/

section Write

variable {κ : Type}

/-- The attempt to write a document down: the entry that was found is renewed, or a new one is
inserted. -/
def write (cache : CacheStore κ) (state : κ) (cached : Option CacheEntry)
    (email print document : String) (now : Int64) : Except Fault κ :=
  let entry := renewed cached email print document now
  match cached with
  | some _ => cache.update state entry
  | none => (cache.insert state entry).map (·.2)

/-- A failed attempt changes nothing. -/
theorem record_of_write_eq_error {cache : CacheStore κ} {state : κ} {cached : Option CacheEntry}
    {email print document : String} {now : Int64} {fault : Fault}
    (h : write cache state cached email print document now = .error fault) :
    record cache state cached email print document now = state := by
  obtain same | ⟨e, next, rfl, written, -⟩ | ⟨id, next, rfl, written, -⟩ :=
    record_cases cache state cached email print document now
  · exact same
  · cases written.symm.trans h
  · rw [write, written] at h
    cases h

theorem record_of_write_eq_ok {cache : CacheStore κ} {state next : κ} {cached : Option CacheEntry}
    {email print document : String} {now : Int64}
    (h : write cache state cached email print document now = .ok next) :
    record cache state cached email print document now = next := by
  cases cached with
  | some e =>
    have written : cache.update state (renewed (some e) email print document now) = .ok next := h
    rw [record, written]
  | none =>
    obtain ⟨added, written, rfl⟩ := Backend.exists_of_map_eq_ok h
    rw [record, written]

end Write

/-- One entry is written for an e-mail, and no other entry is touched: the one that was found is
renewed where it stands, with its identifier and its time of creation, or a new one is put at the
end. -/
inductive Rewrites (email print document : String) (now : Int64) :
    Option CacheEntry → List CacheEntry → List CacheEntry → Prop
  | renewed {before later : List CacheEntry} {e : CacheEntry} (named : e.email = email)
    (others : ∀ x ∈ before ++ later, x.email ≠ email) :
    Rewrites email print document now (some e) (before ++ e :: later)
      (before ++
        { e with urlFingerprint := print, yamlContent := document, updatedAt := now } :: later)
  | added {entries : List CacheEntry} (id : Int64) (others : ∀ x ∈ entries, x.email ≠ email) :
    Rewrites email print document now none entries
      (entries ++ [⟨id, email, print, document, now, now⟩])

/-- What differs among all entries sets one of them apart. -/
theorem ne_of_nodup_middle {α : Type} {f : CacheEntry → α} {before later : List CacheEntry}
    {e : CacheEntry} (distinct : ((before ++ e :: later).map f).Nodup) :
    ∀ x ∈ before ++ later, f x ≠ f e := by
  rw [List.map_append, List.map_cons, List.nodup_middle, ← List.map_append] at distinct
  intro x hx same
  exact (List.nodup_cons.1 distinct).1 (same ▸ List.mem_map_of_mem hx)

/-- Overwriting by identifier reaches one entry where identifiers differ. -/
theorem map_overwrite_middle {before later : List CacheEntry} {e : CacheEntry}
    (ids : ((before ++ e :: later).map (·.id)).Nodup) (new : CacheEntry) (same : new.id = e.id) :
    (before ++ e :: later).map (fun r => if r.id = new.id then new else r) =
      before ++ new :: later := by
  have others : ∀ r ∈ before ++ later, (if r.id = new.id then new else r) = r := fun r hr =>
    if_neg fun clash => ne_of_nodup_middle ids r hr (clash.trans same)
  rw [List.map_append, List.map_cons, if_pos same.symm,
    List.map_congr_left fun r hr => others r (List.mem_append_left later hr),
    List.map_congr_left fun r hr => others r (List.mem_append_right before hr), List.map_id',
    List.map_id']

/-- **A write that succeeds touches the entry of its e-mail only.** -/
theorem rewrites_of_write {cache : CacheStore Backend} (faulty : cache.MayFail Backend.cacheStore)
    {state next : Backend} (ids : (state.entries.map (·.id)).Nodup)
    (emails : (state.entries.map (·.email)).Nodup) {cached : Option CacheEntry}
    {email print document : String} {now : Int64}
    (found : cache.find? state email = .ok cached)
    (h : write cache state cached email print document now = .ok next) :
    Rewrites email print document now cached state.entries next.entries ∧
      next.inboundStore = state.inboundStore := by
  have looked : state.entries.find? (·.email = email) = cached :=
    Except.ok.inj ((state.find?_eq email).symm.trans (faulty.find? found))
  cases cached with
  | none =>
    obtain ⟨⟨id, _⟩, written, rfl⟩ := Backend.exists_of_map_eq_ok h
    obtain ⟨entries, inbounds⟩ := Backend.insert_eq_ok (faulty.insert written)
    refine ⟨?_, inbounds⟩
    rw [entries]
    exact .added id fun x hx => by simpa using List.find?_eq_none.1 looked x hx
  | some e =>
    obtain ⟨entries, inbounds⟩ := Backend.update_eq_ok ids (faulty.update h)
    refine ⟨?_, inbounds⟩
    have named : e.email = email := by simpa using List.find?_some looked
    obtain ⟨before, later, split⟩ := List.append_of_mem (List.mem_of_find?_eq_some looked)
    rw [split] at ids emails entries
    rw [entries, split,
      map_overwrite_middle ids (Clash.renewed (some e) email print document now) rfl]
    exact .renewed named fun x hx same =>
      ne_of_nodup_middle emails x hx (same.trans named.symm)

/-! ## The converter -/

section Convert

variable {κ : Type} {store : InboundStore} {cache : CacheStore κ}
  {convert : String → Except Fault String} {options : ClashOptions} {now : Int64} {state : κ}
  {email host : String}

/-- What can stand in the way of a link; the converter has no part in it. -/
theorem prepare_eq_error {failure : Failure}
    (h : prepare store options email host = .error failure) :
    (∃ fault, failure = .store fault) ∨ ∃ text, failure = .notFound text := by
  rw [prepare] at h
  split at h
  · exact .inl ⟨_, (Except.error.inj h).symm⟩
  · exact .inr ⟨_, (Except.error.inj h).symm⟩
  · dsimp only at h
    split at h
    · exact .inr ⟨_, (Except.error.inj h).symm⟩
    · cases h

/-- The converter matters through what it makes of the link that is sent to it, if one is. -/
theorem Exit.congr_convert {outcome : Outcome κ}
    (h : Exit store cache convert options now state email host outcome)
    {convert' : String → Except Fault String}
    (same : ∀ link, outcome.sent = some link → convert' link = convert link) :
    Exit store cache convert' options now state email host outcome := by
  cases h with
  | unprepared refused => exact .unprepared refused
  | unread prepared broken => exact .unread prepared broken
  | recalled prepared found hit => exact .recalled prepared found hit
  | unconverted prepared found missed unmade =>
    exact .unconverted prepared found missed ((same _ rfl).trans unmade)
  | delivered prepared found missed made =>
    exact .delivered prepared found missed ((same _ rfl).trans made)

end Convert

/-! ## All exits -/

/-- What a request that ends in `outcome` leaves behind, and when it asks the converter. -/
structure LeavesNoTrace (store : InboundStore) (cache : CacheStore Backend)
    (convert : String → Except Fault String) (options : ClashOptions) (now : Int64)
    (state : Backend) (email host : String) (outcome : Outcome Backend) : Prop where
  /-- An error leaves the cache as it was. -/
  untouched : ∀ failure, outcome.answer = .error failure → outcome.cache = state
  /-- If the client is not found, the converter is not asked. -/
  unasked_of_notFound : ∀ text, outcome.answer = .error (.notFound text) → outcome.sent = none
  /-- Neither is it if a store cannot be read. -/
  unasked_of_store : ∀ fault, outcome.answer = .error (.store fault) → outcome.sent = none
  /-- The converter's own error comes from the one time that it is asked. -/
  asked_of_conversion : ∀ fault, outcome.answer = .error (.conversion fault) →
    ∃ p, prepare store options email host = .ok p ∧ outcome.sent = some p.link ∧
      convert p.link = .error fault
  /-- An answer comes from the cache, without a trace, exactly if there is a document of the same
  link.  Otherwise it is the conversion of that link, and what happens to the cache is up to the
  attempt to write it down. -/
  answered : ∀ document, outcome.answer = .ok document →
    ∃ p cached, prepare store options email host = .ok p ∧ cache.find? state email = .ok cached ∧
      (outcome.sent = none ↔
        ∃ e, cached = some e ∧ e.urlFingerprint = fingerprint p.link ∧ e.yamlContent ≠ "") ∧
      (outcome.sent = none → outcome.cache = state ∧ cached.map (·.yamlContent) = some document) ∧
      ∀ link, outcome.sent = some link → link = p.link ∧
        (∃ text, convert link = .ok text ∧ document = restorePort options p.port text) ∧
        (∀ fault, write cache state cached email (fingerprint link) document now = .error fault →
          outcome.cache = state) ∧
        ∀ next, write cache state cached email (fingerprint link) document now = .ok next →
          outcome.cache = next ∧ next.inboundStore = state.inboundStore ∧
            Rewrites email (fingerprint link) document now cached state.entries next.entries
  /-- The converter is asked about no other link: all else it might do makes no difference. -/
  asked_once : ∀ convert' : String → Except Fault String,
    (∀ link, outcome.sent = some link → convert' link = convert link) →
    serve store cache convert' options now state email host = outcome

/-- **A request leaves no trace unless it writes down what it answers.**  Reading a store, writing
to the cache and converting may each fail, with any fault, and the cache may hold anything in which
identifiers and e-mails differ. -/
theorem serve_leaves_no_trace {cache : CacheStore Backend}
    (faulty : cache.MayFail Backend.cacheStore) {state : Backend}
    (ids : (state.entries.map (·.id)).Nodup) (emails : (state.entries.map (·.email)).Nodup)
    (store : InboundStore) (convert : String → Except Fault String) (options : ClashOptions)
    (now : Int64) (email host : String) :
    LeavesNoTrace store cache convert options now state email host
      (serve store cache convert options now state email host) := by
  have exit := exit_serve store cache convert options now state email host
  generalize serve store cache convert options now state email host = outcome at exit
  have asked_once : ∀ convert' : String → Except Fault String,
      (∀ link, outcome.sent = some link → convert' link = convert link) →
      serve store cache convert' options now state email host = outcome :=
    fun _ same => (exit.congr_convert same).serve_eq
  cases exit with
  | @unprepared failure refused =>
    refine ⟨fun _ _ => rfl, fun _ _ => rfl, fun _ _ => rfl, ?_, nofun, asked_once⟩
    intro fault answer
    obtain rfl := Except.error.inj answer
    rcases prepare_eq_error refused with ⟨_, impossible⟩ | ⟨_, impossible⟩ <;> cases impossible
  | unread prepared broken =>
    exact ⟨fun _ _ => rfl, fun _ _ => rfl, fun _ _ => rfl, nofun, nofun, asked_once⟩
  | @recalled p cached document prepared found hit =>
    refine ⟨nofun, nofun, nofun, nofun, fun _ answer => ?_, asked_once⟩
    obtain rfl := Except.ok.inj answer
    obtain ⟨e, rfl, same, full, rfl⟩ := cachedAnswer?_eq_some.1 hit
    exact ⟨p, some e, prepared, found, ⟨fun _ => ⟨e, rfl, same, full⟩, fun _ => rfl⟩,
      fun _ => ⟨rfl, rfl⟩, nofun⟩
  | @unconverted p cached fault prepared found missed unmade =>
    refine ⟨fun _ _ => rfl, nofun, nofun, fun _ answer => ?_, nofun, asked_once⟩
    obtain rfl := Failure.conversion.inj (Except.error.inj answer)
    exact ⟨p, prepared, rfl, unmade⟩
  | @delivered p cached text prepared found missed made =>
    refine ⟨nofun, nofun, nofun, nofun, fun _ answer => ?_, asked_once⟩
    obtain rfl := Except.ok.inj answer
    refine ⟨p, cached, prepared, found, ⟨nofun, ?_⟩, nofun, fun link sent => ?_⟩
    · rintro ⟨e, rfl, same, full⟩
      rw [cachedAnswer?_eq_some.2 ⟨e, rfl, same, full, rfl⟩] at missed
      cases missed
    · obtain rfl := Option.some.inj sent
      refine ⟨rfl, ⟨text, made, rfl⟩, fun fault failed => record_of_write_eq_error failed,
        fun next written => ?_⟩
      obtain ⟨rewrites, inbounds⟩ := rewrites_of_write faulty ids emails found written
      exact ⟨record_of_write_eq_ok written, inbounds, rewrites⟩

/-- An outdated document of `kim`. -/
def outdatedEntry : CacheEntry := ⟨3, "kim", "0", "port: 80", 2, 2⟩

/-- A backend that holds it, behind the document of another client. -/
def outdated : Backend :=
  .memory [edgeAt 443] ⟨[⟨7, "lee", "0", "port: 80", 1, 1⟩, outdatedEntry], false⟩

/-- A request of `kim` to that backend during an outage. -/
def outdatedOutcome (o : Outage) : Outcome Backend :=
  serve (MemoryInbounds.store [edgeAt 443]) (o.cache Backend.cacheStore) portConverter plainOptions
    9 outdated "kim" "h.example"

/-- The document is made anew and served; it takes the place of the outdated one, unless updates are
down. -/
theorem serve_leaves_no_trace_outdated :
    (∀ o ∈ [⟨[.cacheUpdate]⟩, (⟨[.cacheInsert]⟩ : Outage)],
      (outdatedOutcome o).answer = .ok "port: 443") ∧
    (outdatedOutcome ⟨[.cacheUpdate]⟩).cache = outdated ∧
    Rewrites "kim" (fingerprint "vless://key@h.example:45556?security=none&type=tcp#Edge-kim")
      "port: 443" 9 (some outdatedEntry) outdated.entries
      (outdatedOutcome ⟨[.cacheInsert]⟩).cache.entries := by
  have answers : ∀ o ∈ [⟨[.cacheUpdate]⟩, (⟨[.cacheInsert]⟩ : Outage)],
      (outdatedOutcome o).answer = .ok "port: 443" := by decide +kernel
  have sent : ∀ o ∈ [⟨[.cacheUpdate]⟩, (⟨[.cacheInsert]⟩ : Outage)], (outdatedOutcome o).sent =
      some "vless://key@h.example:45556?security=none&type=tcp#Edge-kim" := by decide +kernel
  have ids : (outdated.entries.map (·.id)).Nodup := by decide
  have emails : (outdated.entries.map (·.email)).Nodup := by decide
  have leaves (o : Outage) := serve_leaves_no_trace (o.mayFail Backend.cacheStore) ids emails
    (MemoryInbounds.store [edgeAt 443]) portConverter plainOptions 9 "kim" "h.example"
  refine ⟨answers, ?_, ?_⟩
  · obtain ⟨p, cached, -, found, -, -, asked⟩ :=
      (leaves ⟨[.cacheUpdate]⟩).answered _ (answers _ (by decide))
    obtain rfl : some outdatedEntry = cached := Except.ok.inj found
    exact (asked _ (sent _ (by decide))).2.2.1 _ rfl
  · obtain ⟨p, cached, -, found, -, -, asked⟩ :=
      (leaves ⟨[.cacheInsert]⟩).answered _ (answers _ (by decide))
    obtain rfl : some outdatedEntry = cached := Except.ok.inj found
    obtain ⟨cache, -, rewrites⟩ := (asked _ (sent _ (by decide))).2.2.2 _ rfl
    exact cache ▸ rewrites

end Clash
end ProxyFeed
