import ProxyFeed.Proofs.Clash.Serve
import Mathlib.Algebra.Group.Nat.Defs
import Mathlib.Data.List.Induction
import Mathlib.Data.List.Nodup

/-!
# Documents stay in the cache

A document in memory answers every later request that meets the same link, whatever comes in
between for other e-mails.  What could go wrong is a write for another e-mail that reaches the entry
of this one: entries are found by e-mail but overwritten by identifier.

## What is here

* `MemoryCache.Numbered` — entries are numbered as they come, and their e-mails differ: the
  invariant that lets e-mail and identifier address the same entry.
* `MemoryCache.Wrote` — what writing a document down does to the entries, by their e-mails.
* `Clash.Request` — a request and the world it meets; `Clash.afterRequests` is the cache after a
  list of them.
* `Clash.lookup_afterRequests` — requests for other e-mails leave the entry of an e-mail alone.
* `Clash.recalled_after_requests` — a document that was written down is served again.
-/

set_option autoImplicit false
namespace ProxyFeed

/-! ## Entries by e-mail and by identifier -/

namespace MemoryCache

/-- The entry of an e-mail. -/
def lookup (c : MemoryCache) (email : String) : Option CacheEntry :=
  c.entries.find? (·.email = email)

/-- Entries are numbered from one in the order they came, and their e-mails differ. -/
structure Numbered (c : MemoryCache) : Prop where
  ids : c.entries.map (·.id) = (List.range c.entries.length).map fun n => Int64.ofNat (n + 1)
  apart : (c.entries.map (·.email)).Nodup

theorem numbered_of_empty {c : MemoryCache} (empty : c.entries = []) : c.Numbered := by
  constructor <;> simp [empty]

/-- A list in memory is short enough for all its numbers to differ. -/
theorem Numbered.nodup_ids {c : MemoryCache} (h : c.Numbered)
    (room : c.entries.length < 2 ^ 63) : (c.entries.map (·.id)).Nodup := by
  rw [h.ids]
  refine List.nodup_range.map_on fun m hm n hn same => ?_
  have hm := List.mem_range.1 hm
  have hn := List.mem_range.1 hn
  have values := congrArg Int64.toInt same
  rw [Int64.toInt_ofNat_of_lt (by omega), Int64.toInt_ofNat_of_lt (by omega)] at values
  omega

/-! Overwriting is by identifier.  It is harmless where the identifier belongs to the e-mail of the
new entry. -/

section Replace

variable {e : CacheEntry} {entries : List CacheEntry}

theorem map_id_replace (e : CacheEntry) (entries : List CacheEntry) :
    (replace e entries).map (·.id) = entries.map (·.id) := by
  induction entries with
  | nil => rfl
  | cons x xs ih =>
    rw [replace]
    split
    · next same => rw [List.map_cons, List.map_cons, same]
    · rw [List.map_cons, List.map_cons, ih]

theorem length_replace (e : CacheEntry) (entries : List CacheEntry) :
    (replace e entries).length = entries.length := by
  simpa using congrArg List.length (map_id_replace e entries)

theorem map_email_replace (own : ∀ x ∈ entries, x.id = e.id → x.email = e.email) :
    (replace e entries).map (·.email) = entries.map (·.email) := by
  induction entries with
  | nil => rfl
  | cons x xs ih =>
    rw [replace]
    split
    · next same => rw [List.map_cons, List.map_cons, own x List.mem_cons_self same]
    · rw [List.map_cons, List.map_cons, ih fun y hy => own y (List.mem_cons_of_mem _ hy)]

/-- The entries of other e-mails are found as before. -/
theorem find?_replace_of_ne (own : ∀ x ∈ entries, x.id = e.id → x.email = e.email)
    {email : String} (other : email ≠ e.email) :
    (replace e entries).find? (·.email = email) = entries.find? (·.email = email) := by
  induction entries with
  | nil => rfl
  | cons x xs ih =>
    have later := ih fun y hy => own y (List.mem_cons_of_mem _ hy)
    rw [replace]
    split
    · next same =>
      have named := own x List.mem_cons_self same
      rw [List.find?_cons_of_neg (by simpa using Ne.symm other),
        List.find?_cons_of_neg (by simpa [named] using Ne.symm other)]
    · by_cases here : x.email = email
      · rw [List.find?_cons_of_pos (by simpa using here),
          List.find?_cons_of_pos (by simpa using here)]
      · rw [List.find?_cons_of_neg (by simpa using here),
          List.find?_cons_of_neg (by simpa using here), later]

/-- The new entry is found by its e-mail. -/
theorem find?_replace_self (own : ∀ x ∈ entries, x.id = e.id → x.email = e.email)
    (apart : (entries.map (·.email)).Nodup) (there : ∃ x ∈ entries, x.id = e.id) :
    (replace e entries).find? (·.email = e.email) = some e := by
  induction entries with
  | nil => simp at there
  | cons x xs ih =>
    rw [List.map_cons, List.nodup_cons] at apart
    rw [replace]
    split
    · exact List.find?_cons_of_pos (by simp)
    · next different =>
      obtain ⟨y, hy, same⟩ := there
      have later : y ∈ xs := by
        rcases List.mem_cons.1 hy with rfl | later
        · exact absurd same different
        · exact later
      have named : y.email = e.email := own y hy same
      have head : x.email ≠ e.email := by
        intro clash
        exact apart.1 (List.mem_map.2 ⟨y, later, named.trans clash.symm⟩)
      rw [List.find?_cons_of_neg (by simpa using head)]
      exact ih (fun z hz => own z (List.mem_cons_of_mem _ hz)) apart.2 ⟨y, later, same⟩

end Replace

/-! ## Writing a document down -/

/-- What writing a document down does: the cache stays numbered, other e-mails keep their entries,
and unless writes are refused the e-mail has an entry with the document. -/
structure Wrote (c next : MemoryCache) (email print document : String) : Prop where
  numbered : next.Numbered
  others : ∀ other, other ≠ email → next.lookup other = c.lookup other
  written : c.readOnly = false → ∃ e, next.lookup email = some e ∧ e.urlFingerprint = print ∧
    e.yamlContent = document

section Record

variable {c : MemoryCache} {email print document : String} {now : Int64}

/-- A cache that refuses writes stays as it is. -/
theorem wrote_refused (h : c.Numbered) (refused : c.readOnly = true) (cached : Option CacheEntry) :
    Wrote c (Clash.record store c cached email print document now) email print document := by
  have same : Clash.record store c cached email print document now = c := by
    cases cached <;> simp [Clash.record, store, refused]
  rw [same]
  exact ⟨h, fun _ _ => rfl, fun writable => by cases refused.symm.trans writable⟩

/-- A new entry goes to the end, under the next number. -/
theorem wrote_insert (h : c.Numbered) (absent : c.lookup email = none) :
    Wrote c (Clash.record store c none email print document now) email print document := by
  have free : email ∉ c.entries.map (·.email) := by
    intro there
    obtain ⟨x, hx, named⟩ := List.mem_map.1 there
    simpa [named] using List.find?_eq_none.1 absent x hx
  cases refused : c.readOnly with
  | true => exact wrote_refused h refused _
  | false =>
    have appended : Clash.record store c none email print document now =
        { c with entries := c.entries ++
          [⟨Int64.ofNat (c.entries.length + 1), email, print, document, now, now⟩] } := by
      simp [Clash.record, store, refused, Clash.renewed]
    rw [appended]
    refine ⟨⟨?_, ?_⟩, fun other ne => ?_, fun _ => ?_⟩
    · simp [h.ids, List.range_succ]
    · simpa [List.nodup_append, h.apart] using
        fun x hx named => free (List.mem_map.2 ⟨x, hx, named⟩)
    · simp [lookup, List.find?_append, Ne.symm ne]
    · have none_before : c.entries.find? (·.email = email) = none := absent
      exact ⟨_, by simp [lookup, List.find?_append, none_before]; rfl, rfl, rfl⟩

/-- A found entry is overwritten where it stands. -/
theorem wrote_update (h : c.Numbered) (room : c.entries.length < 2 ^ 63) {e : CacheEntry}
    (found : c.lookup email = some e) :
    Wrote c (Clash.record store c (some e) email print document now) email print document := by
  have there : e ∈ c.entries := List.mem_of_find?_eq_some found
  have named : e.email = email := by simpa using List.find?_some found
  cases refused : c.readOnly with
  | true => exact wrote_refused h refused _
  | false =>
    let renewed := Clash.renewed (some e) email print document now
    have replaced : Clash.record store c (some e) email print document now =
        { c with entries := replace renewed c.entries } := by
      simp [Clash.record, store, refused, renewed]
    -- the number of the entry leads to the entry itself, and so to its e-mail
    have own : ∀ x ∈ c.entries, x.id = renewed.id → x.email = renewed.email := by
      intro x hx same
      have entry := List.inj_on_of_nodup_map (h.nodup_ids room) hx there same
      rw [entry]
      rfl
    have email_eq : renewed.email = email := named
    rw [replaced]
    refine ⟨⟨?_, ?_⟩, fun other ne => ?_, fun _ => ?_⟩
    · rw [map_id_replace, length_replace]
      exact h.ids
    · rw [map_email_replace own]
      exact h.apart
    · exact find?_replace_of_ne own (email_eq ▸ ne)
    · have self := find?_replace_self own h.apart ⟨e, there, rfl⟩
      rw [email_eq] at self
      exact ⟨renewed, self, rfl, rfl⟩

/-- **Writing a document down touches the entry of its e-mail only.** -/
theorem wrote_record (h : c.Numbered) (room : c.entries.length < 2 ^ 63)
    (email print document : String) (now : Int64) :
    Wrote c (Clash.record store c (c.lookup email) email print document now) email print
      document := by
  cases found : c.lookup email with
  | none => exact wrote_insert h found
  | some e => exact wrote_update h room found

/-- No entry is ever dropped, and no more than one is added. -/
theorem length_record (c : MemoryCache) (cached : Option CacheEntry)
    (email print document : String) (now : Int64) :
    c.entries.length ≤ (Clash.record store c cached email print document now).entries.length ∧
      (Clash.record store c cached email print document now).entries.length ≤
        c.entries.length + 1 := by
  obtain same | ⟨e, next, rfl, written, same⟩ | ⟨id, next, rfl, written, same⟩ :=
    Clash.record_cases store c cached email print document now
  · rw [same]
    exact ⟨Nat.le_refl _, Nat.le_succ _⟩
  · rw [same, update_eq_ok written, length_replace]
    exact ⟨Nat.le_refl _, Nat.le_succ _⟩
  · rw [same, insert_eq_ok written]
    simp

end Record

end MemoryCache

namespace Clash

/-! ## Runs of requests -/

/-- A request, and the world it meets.  All of it may be different at the next request: what is
stored about the inbounds, what the converter does, the time, and whether the cache refuses
writes. -/
structure Request where
  email : String
  host : String
  store : InboundStore
  convert : String → Except Fault String
  now : Int64
  readOnly : Bool

namespace Request

/-- The cache as the request meets it. -/
def met (r : Request) (state : MemoryCache) : MemoryCache := { state with readOnly := r.readOnly }

/-- What the request is served with. -/
def prepared (options : ClashOptions) (r : Request) : Except Failure Prepared :=
  prepare r.store options r.email r.host

/-- Serves the request. -/
def outcome (options : ClashOptions) (r : Request) (state : MemoryCache) : Outcome MemoryCache :=
  serve r.store MemoryCache.store r.convert options r.now (r.met state) r.email r.host

end Request

/-- The cache after a list of requests. -/
def afterRequests (options : ClashOptions) (start : MemoryCache) (rs : List Request) :
    MemoryCache :=
  rs.foldl (fun state r => (r.outcome options state).cache) start

section Runs

variable {options : ClashOptions} {state start : MemoryCache} {r : Request}

/-- What a request does to the cache: nothing, or it writes a document down for its e-mail. -/
theorem Request.cache_cases (options : ClashOptions) (r : Request) (state : MemoryCache) :
    (r.outcome options state).cache = r.met state ∨
      ∃ p document, r.prepared options = .ok p ∧
        (r.outcome options state).answer = .ok document ∧
        (r.outcome options state).cache = record MemoryCache.store (r.met state)
          (state.lookup r.email) r.email (fingerprint p.link) document r.now := by
  cases answered : (r.outcome options state).answer with
  | error failure => exact .inl (serve_cache_of_error answered)
  | ok document =>
    obtain ⟨p, prepared, cases_⟩ := serve_cases answered
    rcases cases_ with ⟨-, -, -, -, outcome⟩ | ⟨cached, text, found, -, -, outcome⟩
    · exact .inl (congrArg Outcome.cache outcome)
    · obtain rfl : state.lookup r.email = cached := Except.ok.inj found
      exact .inr ⟨p, document, prepared, rfl, congrArg Outcome.cache outcome⟩

/-- **One request keeps the cache numbered, and the entries of other e-mails.** -/
theorem Request.keeps_others (options : ClashOptions) (r : Request) (numbered : state.Numbered)
    (room : state.entries.length < 2 ^ 63) :
    (r.outcome options state).cache.Numbered ∧ ∀ email, email ≠ r.email →
      (r.outcome options state).cache.lookup email = state.lookup email := by
  have met : (r.met state).Numbered := ⟨numbered.ids, numbered.apart⟩
  rcases r.cache_cases options state with same | ⟨p, document, -, -, recorded⟩
  · rw [same]
    exact ⟨met, fun _ _ => rfl⟩
  · have wrote := MemoryCache.wrote_record met room r.email (fingerprint p.link) document r.now
    rw [recorded]
    exact ⟨wrote.numbered, wrote.others⟩

theorem Request.length_outcome (r : Request) (state : MemoryCache) :
    state.entries.length ≤ (r.outcome options state).cache.entries.length ∧
      (r.outcome options state).cache.entries.length ≤ state.entries.length + 1 := by
  rcases r.cache_cases options state with same | ⟨p, document, -, -, recorded⟩
  · rw [same]
    exact ⟨Nat.le_refl _, Nat.le_succ _⟩
  · rw [recorded]
    exact MemoryCache.length_record (r.met state) _ _ _ _ _

theorem afterRequests_snoc (options : ClashOptions) (start : MemoryCache) (rs : List Request)
    (r : Request) : afterRequests options start (rs ++ [r]) =
      (r.outcome options (afterRequests options start rs)).cache := by
  rw [afterRequests, List.foldl_concat, ← afterRequests]

/-- A run of requests adds no more entries than there are requests. -/
theorem length_afterRequests (start : MemoryCache) (rs : List Request) :
    start.entries.length ≤ (afterRequests options start rs).entries.length ∧
      (afterRequests options start rs).entries.length ≤ start.entries.length + rs.length := by
  induction rs using List.reverseRecOn with
  | nil => exact ⟨Nat.le_refl _, Nat.le_refl _⟩
  | append_singleton rs r ih =>
    obtain ⟨kept, added⟩ := r.length_outcome (afterRequests options start rs)
    rw [afterRequests_snoc, List.length_append, List.length_singleton]
    exact ⟨Nat.le_trans ih.1 kept, Nat.le_trans added (Nat.succ_le_succ ih.2)⟩

/-- **Requests for other e-mails leave the entry of an e-mail alone**, and keep the cache numbered.
The room of the last cache is that of every cache before, as entries are never dropped. -/
theorem lookup_afterRequests (numbered : start.Numbered) {rs : List Request}
    (room : (afterRequests options start rs).entries.length < 2 ^ 63) :
    (afterRequests options start rs).Numbered ∧ ∀ email, (∀ r ∈ rs, email ≠ r.email) →
      (afterRequests options start rs).lookup email = start.lookup email := by
  induction rs using List.reverseRecOn with
  | nil => exact ⟨numbered, fun _ _ => rfl⟩
  | append_singleton rs r ih =>
    rw [afterRequests_snoc] at room ⊢
    have room_before := Nat.lt_of_le_of_lt (r.length_outcome _).1 room
    obtain ⟨before, same⟩ := ih room_before
    obtain ⟨after, others⟩ := r.keeps_others options before room_before
    refine ⟨after, fun email other => ?_⟩
    rw [others email (other r (by simp)), same email fun s hs => other s (by simp [hs])]

/-- A request that is answered leaves an entry with its answer behind, unless its write is
refused. -/
theorem Request.lookup_of_answer (numbered : state.Numbered)
    (room : state.entries.length < 2 ^ 63) {p : Prepared} {document : String}
    (prepared : r.prepared options = .ok p)
    (answered : (r.outcome options state).answer = .ok document)
    (kept : r.readOnly = false ∨ (r.outcome options state).sent = none) :
    ∃ e, (r.outcome options state).cache.lookup r.email = some e ∧
      e.urlFingerprint = fingerprint p.link ∧ e.yamlContent = document := by
  obtain ⟨q, prepared', cases_⟩ := serve_cases answered
  obtain rfl := Except.ok.inj (prepared.symm.trans prepared')
  rcases cases_ with ⟨e, found, print, content, outcome⟩ | ⟨cached, text, found, -, -, outcome⟩
  · have same : (r.outcome options state).cache = r.met state := congrArg Outcome.cache outcome
    rw [same]
    exact ⟨e, Except.ok.inj found, print, content⟩
  · have recorded := congrArg Outcome.cache outcome
    have writable : r.readOnly = false := by
      rcases kept with writable | sent
      · exact writable
      · exact absurd ((congrArg Outcome.sent outcome).symm.trans sent) (by simp)
    have met : (r.met state).Numbered := ⟨numbered.ids, numbered.apart⟩
    obtain rfl : state.lookup r.email = cached := Except.ok.inj found
    obtain ⟨e, there, print, content⟩ :=
      (MemoryCache.wrote_record met room r.email (fingerprint p.link) document r.now).written
        writable
    refine ⟨e, ?_, print, content⟩
    rw [← there]
    exact congrArg (MemoryCache.lookup · r.email) recorded

/-- An entry with the fingerprint of the link answers a request, and nothing is converted. -/
theorem Request.outcome_of_lookup {p : Prepared} {e : CacheEntry}
    (prepared : r.prepared options = .ok p) (there : state.lookup r.email = some e)
    (print : e.urlFingerprint = fingerprint p.link) (full : e.yamlContent ≠ "") :
    r.outcome options state = ⟨.ok e.yamlContent, none, r.met state⟩ := by
  have found : MemoryCache.store.find? (r.met state) r.email = .ok (some e) :=
    congrArg Except.ok there
  have hit : cachedAnswer? (fingerprint p.link) (some e) = some e.yamlContent :=
    cachedAnswer?_eq_some.2 ⟨e, rfl, print, full, rfl⟩
  exact (Exit.recalled prepared found hit).serve_eq

/-- **A document that was written down is served again**, and nothing is converted for it, to every
later request for the e-mail that meets the same link; whatever the requests between them are, as
long as they are for other e-mails, and whatever becomes of the inbounds, the converter and the
cache's readiness to be written to.  A list in memory always has the room asked for here, and there
is no more than one entry for each request, by `length_afterRequests`. -/
theorem recalled_after_requests {options : ClashOptions} {start : MemoryCache}
    {before between : List Request} {r later : Request} {p q : Prepared} {document : String}
    (empty : start.entries = [])
    (room : (afterRequests options start (before ++ r :: between)).entries.length < 2 ^ 63)
    (prepared : r.prepared options = .ok p)
    (answered : (r.outcome options (afterRequests options start before)).answer = .ok document)
    (full : document ≠ "")
    (kept : r.readOnly = false ∨
      (r.outcome options (afterRequests options start before)).sent = none)
    (others : ∀ s ∈ between, s.email ≠ r.email) (email : later.email = r.email)
    (prepared' : later.prepared options = .ok q) (link : q.link = p.link) :
    later.outcome options (afterRequests options start (before ++ r :: between)) =
      ⟨.ok document, none, later.met (afterRequests options start (before ++ r :: between))⟩ := by
  have split : afterRequests options start (before ++ r :: between) = afterRequests options
      (r.outcome options (afterRequests options start before)).cache between := by
    rw [afterRequests, List.foldl_append, List.foldl_cons, ← afterRequests, ← afterRequests]
  rw [split] at room ⊢
  have room_after := Nat.lt_of_le_of_lt (length_afterRequests _ between).1 room
  have room_before := Nat.lt_of_le_of_lt (r.length_outcome _).1 room_after
  have numbered := (lookup_afterRequests (MemoryCache.numbered_of_empty empty) room_before).1
  obtain ⟨e, there, print, rfl⟩ := r.lookup_of_answer numbered room_before prepared answered kept
  have numbered_after := (r.keeps_others options numbered room_before).1
  have still := (lookup_afterRequests numbered_after room).2 r.email
    fun s hs => Ne.symm (others s hs)
  refine Request.outcome_of_lookup prepared' ?_ (link ▸ print) full
  rw [email, still, there]

end Runs

/-! ## Two clients that take turns -/

/-- An inbound with two clients that listens on a port. -/
def sharedAt (port : Int64) : Inbound :=
  { edgeAt port with
    settings := "\x7b\"clients\":[\x7b\"id\":\"key\",\"email\":\"kim\",\"enable\":true\x7d," ++
      "\x7b\"id\":\"other\",\"email\":\"lee\",\"enable\":true\x7d]\x7d" }

/-- A converter that cannot be reached. -/
def brokenConverter (_ : String) : Except Fault String := .error ⟨"converter unreachable", []⟩

/-- A request for a client of that inbound. -/
def asks (email host : String) (port : Int64) (convert : String → Except Fault String) : Request :=
  ⟨email, host, MemoryInbounds.store [sharedAt port], convert, 0, false⟩

/-- The cache after a request for `kim` and two for `lee`: the second one of these meets another
link, so the entry of `lee` is overwritten. -/
def afterTurns : MemoryCache :=
  afterRequests plainOptions {} ([] ++ asks "kim" "h.example" 443 portConverter ::
    [asks "lee" "h.example" 443 portConverter, asks "lee" "i.example" 443 portConverter])

/-- The document of `kim` is served again although the inbound has moved and the converter cannot be
reached any more. -/
theorem recalled_after_turns :
    ((asks "kim" "h.example" 8443 brokenConverter).outcome plainOptions afterTurns).answer =
        .ok "port: 443" ∧
      ((asks "kim" "h.example" 8443 brokenConverter).outcome plainOptions afterTurns).sent =
        none := by
  have before : (asks "kim" "h.example" 443 portConverter).prepared plainOptions =
      .ok ⟨"vless://key@h.example:45556?security=none&type=tcp#Edge-kim", 443⟩ := by
    decide +kernel
  have moved : (asks "kim" "h.example" 8443 brokenConverter).prepared plainOptions =
      .ok ⟨"vless://key@h.example:45556?security=none&type=tcp#Edge-kim", 8443⟩ := by
    decide +kernel
  have room : afterTurns.entries.length < 2 ^ 63 :=
    Nat.lt_of_le_of_lt (length_afterRequests _ _).2 (by decide)
  have answered : ((asks "kim" "h.example" 443 portConverter).outcome plainOptions {}).answer =
      .ok "port: 443" := by decide +kernel
  have recalled : (asks "kim" "h.example" 8443 brokenConverter).outcome plainOptions afterTurns =
      ⟨.ok "port: 443", none, _⟩ :=
    recalled_after_requests rfl room before answered (by decide) (.inl rfl) (by decide) rfl moved
      rfl
  rw [recalled]
  exact ⟨rfl, rfl⟩

end Clash
end ProxyFeed
