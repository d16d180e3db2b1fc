import ProxyFeed.Clash.Basic
import ProxyFeed.Proofs.Clash.Keeps

/-!
# Serving a request

What can come of a request, and the steps it consists of.  A step touches the world at most once,
so other requests can come in between any two of them; `Clash.serve` is what the steps amount to
when nothing does.

## What is here

* `Clash.Exit` — the ways a request ends; `Clash.exit_serve` says that there are no others.
* `Clash.serve_cases` — the two ways to an answer.
* `Clash.mem_record` — what writing a document down can add to a cache.
* `Clash.Stage` and `Clash.advance` — how far a request has come, and its next step;
  `Clash.Advances` lists what such a step can do.
* `Clash.serve_eq_advance` — the steps in a row.
-/

set_option autoImplicit false
namespace ProxyFeed
namespace Clash

/-! ## A whole request -/

/-- A kept document answers a request if it was made from the same link and is not empty. -/
theorem cachedAnswer?_eq_some {print document : String} {cached : Option CacheEntry} :
    cachedAnswer? print cached = some document ↔
      ∃ e, cached = some e ∧ e.urlFingerprint = print ∧ document ≠ "" ∧
        e.yamlContent = document := by
  cases cached with
  | none => simp [cachedAnswer?]
  | some e =>
    simp only [cachedAnswer?, Option.ite_none_right_eq_some, Option.some.injEq, exists_eq_left']
    constructor
    · rintro ⟨⟨same, full⟩, rfl⟩
      exact ⟨same, full, rfl⟩
    · rintro ⟨same, full, rfl⟩
      exact ⟨⟨same, full⟩, rfl⟩

section Serve

variable {κ : Type} {store : InboundStore} {cache : CacheStore κ}
  {convert : String → Except Fault String} {options : ClashOptions} {now : Int64} {state : κ}
  {email host : String}

/-- The ways a request ends, each with what came of it. -/
inductive Exit (store : InboundStore) (cache : CacheStore κ)
    (convert : String → Except Fault String) (options : ClashOptions) (now : Int64) (state : κ)
    (email host : String) : Outcome κ → Prop
  /-- There is no link to convert. -/
  | unprepared {failure : Failure} (refused : prepare store options email host = .error failure) :
    Exit store cache convert options now state email host ⟨.error failure, none, state⟩
  /-- The cache cannot be read. -/
  | unread {p : Prepared} {fault : Fault} (prepared : prepare store options email host = .ok p)
    (broken : cache.find? state email = .error fault) :
    Exit store cache convert options now state email host ⟨.error (.store fault), none, state⟩
  /-- The document was made before. -/
  | recalled {p : Prepared} {cached : Option CacheEntry} {document : String}
    (prepared : prepare store options email host = .ok p)
    (found : cache.find? state email = .ok cached)
    (hit : cachedAnswer? (fingerprint p.link) cached = some document) :
    Exit store cache convert options now state email host ⟨.ok document, none, state⟩
  /-- The link is not converted. -/
  | unconverted {p : Prepared} {cached : Option CacheEntry} {fault : Fault}
    (prepared : prepare store options email host = .ok p)
    (found : cache.find? state email = .ok cached)
    (missed : cachedAnswer? (fingerprint p.link) cached = none)
    (unmade : convert p.link = .error fault) :
    Exit store cache convert options now state email host
      ⟨.error (.conversion fault), some p.link, state⟩
  /-- The link is converted, and the document written down if the cache takes it. -/
  | delivered {p : Prepared} {cached : Option CacheEntry} {text : String}
    (prepared : prepare store options email host = .ok p)
    (found : cache.find? state email = .ok cached)
    (missed : cachedAnswer? (fingerprint p.link) cached = none)
    (made : convert p.link = .ok text) :
    Exit store cache convert options now state email host
      ⟨.ok (restorePort options p.port text), some p.link,
        record cache state cached email (fingerprint p.link) (restorePort options p.port text) now⟩

/-- **A request ends in one of these ways.** -/
theorem exit_serve (store : InboundStore) (cache : CacheStore κ)
    (convert : String → Except Fault String) (options : ClashOptions) (now : Int64) (state : κ)
    (email host : String) : Exit store cache convert options now state email host
      (serve store cache convert options now state email host) := by
  rw [serve]
  split
  · next failure refused => exact .unprepared refused
  · next p prepared =>
    dsimp only
    split
    · next fault broken => exact .unread prepared broken
    · next cached found =>
      split
      · next document hit => exact .recalled prepared found hit
      · next missed =>
        split
        · next fault unmade => exact .unconverted prepared found missed unmade
        · next text made => exact .delivered prepared found missed made

/-- Only one of them is open to it. -/
theorem Exit.serve_eq {outcome : Outcome κ}
    (h : Exit store cache convert options now state email host outcome) :
    serve store cache convert options now state email host = outcome := by
  cases h with
  | unprepared refused => simp only [serve, refused]
  | unread prepared broken => simp only [serve, prepared, broken]
  | recalled prepared found hit => simp only [serve, prepared, found, hit]
  | unconverted prepared found missed unmade =>
    simp only [serve, prepared, found, missed, unmade]
  | delivered prepared found missed made => simp only [serve, prepared, found, missed, made]

/-- **What can come of a request that is answered**: the document of an entry made from the same
link, or a new conversion that is written down. -/
theorem serve_cases {answer : String}
    (h : (serve store cache convert options now state email host).answer = .ok answer) :
    ∃ p, prepare store options email host = .ok p ∧
      ((∃ e, cache.find? state email = .ok (some e) ∧ e.urlFingerprint = fingerprint p.link ∧
          e.yamlContent = answer ∧
          serve store cache convert options now state email host = ⟨.ok answer, none, state⟩) ∨
        ∃ cached text, cache.find? state email = .ok cached ∧ convert p.link = .ok text ∧
          answer = restorePort options p.port text ∧
          serve store cache convert options now state email host =
            ⟨.ok answer, some p.link,
              record cache state cached email (fingerprint p.link) answer now⟩) := by
  have exit := exit_serve store cache convert options now state email host
  generalize serve store cache convert options now state email host = outcome at h exit ⊢
  cases exit with
  | unprepared | unread | unconverted => cases h
  | @recalled p cached document prepared found hit =>
    obtain rfl := Except.ok.inj h
    obtain ⟨e, rfl, same, -, content⟩ := cachedAnswer?_eq_some.1 hit
    exact ⟨p, prepared, .inl ⟨e, found, same, content, rfl⟩⟩
  | @delivered p cached text prepared found missed made =>
    obtain rfl := Except.ok.inj h
    exact ⟨p, prepared, .inr ⟨cached, text, found, made, rfl, rfl⟩⟩

/-- A request without an answer leaves the cache as it is. -/
theorem serve_cache_of_error {failure : Failure}
    (h : (serve store cache convert options now state email host).answer = .error failure) :
    (serve store cache convert options now state email host).cache = state := by
  have exit := exit_serve store cache convert options now state email host
  generalize serve store cache convert options now state email host = outcome at h exit ⊢
  cases exit with
  | unprepared | unread | unconverted => rfl
  | recalled | delivered => cases h

/-- What writing a document down amounts to: nothing, or one write that succeeds. -/
theorem record_cases (cache : CacheStore κ) (state : κ) (cached : Option CacheEntry)
    (email print document : String) (now : Int64) :
    record cache state cached email print document now = state ∨
      (∃ e next, cached = some e ∧
        cache.update state (renewed cached email print document now) = .ok next ∧
        record cache state cached email print document now = next) ∨
      ∃ id next, cached = none ∧
        cache.insert state (renewed cached email print document now) = .ok (id, next) ∧
        record cache state cached email print document now = next := by
  cases cached with
  | some e =>
    rw [record]
    split
    · next next written => exact .inr (.inl ⟨e, next, rfl, written, rfl⟩)
    · exact .inl rfl
  | none =>
    rw [record]
    split
    · next id next written => exact .inr (.inr ⟨id, next, rfl, written, rfl⟩)
    · exact .inl rfl

/-- Writing a document down adds at most the entry of the e-mail with the new document. -/
theorem mem_record {entries : κ → List CacheEntry} (keeps : cache.Keeps entries)
    {cached : Option CacheEntry} (named : ∀ e, cached = some e → e.email = email)
    {print document : String} :
    ∀ x ∈ entries (record cache state cached email print document now),
      x ∈ entries state ∨
        x.email = email ∧ x.urlFingerprint = print ∧ x.yamlContent = document := by
  intro x hx
  obtain same | ⟨e, next, rfl, written, same⟩ | ⟨id, next, rfl, written, same⟩ :=
    record_cases cache state cached email print document now
  · exact .inl (same ▸ hx)
  · rcases keeps.mem_of_update written x (same ▸ hx) with old | rfl
    · exact .inl old
    · exact .inr ⟨named e rfl, rfl, rfl⟩
  · rcases keeps.mem_of_insert written x (same ▸ hx) with old | rfl
    · exact .inl old
    · exact .inr ⟨rfl, rfl, rfl⟩

end Serve

/-! ## Step by step -/

/-- The world as a step meets it. -/
structure Moment where
  store : InboundStore
  convert : String → Except Fault String
  now : Int64
  /-- What is down, writes to the cache included. -/
  outage : Outage

namespace Moment

/-- What a request is to be served with, as far as the inbounds can be read. -/
def prepared (m : Moment) (options : ClashOptions) (email host : String) :
    Except Failure Prepared :=
  prepare (m.outage.inbounds m.store) options email host

/-- The converter's answer. -/
def converted (m : Moment) (link : String) : Except Fault String :=
  m.outage.converter m.convert link

end Moment

/-- How far a request has come. -/
inductive Stage where
  | arrived
  /-- The link is rendered. -/
  | rendered (p : Prepared)
  /-- The cache had nothing to answer with; the entry found there is kept. -/
  | missed (p : Prepared) (cached : Option CacheEntry)
  /-- The link is converted. -/
  | converted (p : Prepared) (cached : Option CacheEntry) (text : String)
  /-- Answered with a document from the cache. -/
  | recalled (p : Prepared) (document : String)
  /-- Answered with the converted text, after an attempt to write it down. -/
  | delivered (p : Prepared) (text : String)
  | failed (failure : Failure)
deriving DecidableEq, Repr

namespace Stage

/-- The answer of a request that has come to its end. -/
def answer? (options : ClashOptions) : Stage → Option (Except Failure String)
  | .recalled _ document => some (.ok document)
  | .delivered p text => some (.ok (restorePort options p.port text))
  | .failed failure => some (.error failure)
  | _ => none

/-- What the request is served with, once that is known. -/
def prepared? : Stage → Option Prepared
  | .rendered p | .missed p _ | .converted p _ _ | .recalled p _ | .delivered p _ => some p
  | _ => none

/-- The text that its link was converted to. -/
def text? : Stage → Option String
  | .converted _ _ text | .delivered _ text => some text
  | _ => none

/-- The entry that is kept from the look into the cache. -/
def kept? : Stage → Option CacheEntry
  | .missed _ cached | .converted _ cached _ => cached
  | _ => none

/-- There are two ways to end with a document. -/
theorem answer?_eq_ok {options : ClashOptions} {stage : Stage} {answer : String}
    (h : stage.answer? options = some (.ok answer)) :
    (∃ p, stage = .recalled p answer) ∨
      ∃ p text, stage = .delivered p text ∧ answer = restorePort options p.port text := by
  cases stage with
  | recalled p document =>
    obtain rfl := Except.ok.inj (Option.some.inj h)
    exact .inl ⟨p, rfl⟩
  | delivered p text => exact .inr ⟨p, text, rfl, (Except.ok.inj (Option.some.inj h)).symm⟩
  | failed failure => cases Option.some.inj h
  | arrived | rendered | missed | converted => cases h

end Stage

/-- The next step of a request, and the cache after it. -/
def advance {κ : Type} (cache : CacheStore κ) (options : ClashOptions) (m : Moment)
    (email host : String) (stage : Stage) (state : κ) : Stage × κ :=
  match stage with
  | .arrived =>
    match m.prepared options email host with
    | .error failure => (.failed failure, state)
    | .ok p => (.rendered p, state)
  | .rendered p =>
    match (m.outage.cache cache).find? state email with
    | .error fault => (.failed (.store fault), state)
    | .ok cached =>
      match cachedAnswer? (fingerprint p.link) cached with
      | some document => (.recalled p document, state)
      | none => (.missed p cached, state)
  | .missed p cached =>
    match m.converted p.link with
    | .error fault => (.failed (.conversion fault), state)
    | .ok text => (.converted p cached text, state)
  | .converted p cached text =>
    (.delivered p text,
      record (m.outage.cache cache) state cached email (fingerprint p.link)
        (restorePort options p.port text) m.now)
  | stage => (stage, state)

/-- What a step can do. -/
inductive Advances {κ : Type} (cache : CacheStore κ) (options : ClashOptions) (m : Moment)
    (email host : String) : Stage → κ → Stage → κ → Prop
  | render {p : Prepared} {state : κ} (prepared : m.prepared options email host = .ok p) :
    Advances cache options m email host .arrived state (.rendered p) state
  | hit {p : Prepared} {e : CacheEntry} {state : κ}
    (found : (m.outage.cache cache).find? state email = .ok (some e))
    (same : e.urlFingerprint = fingerprint p.link) :
    Advances cache options m email host (.rendered p) state (.recalled p e.yamlContent) state
  | miss {p : Prepared} {cached : Option CacheEntry} {state : κ}
    (found : (m.outage.cache cache).find? state email = .ok cached) :
    Advances cache options m email host (.rendered p) state (.missed p cached) state
  | convert {p : Prepared} {cached : Option CacheEntry} {text : String} {state : κ}
    (converted : m.converted p.link = .ok text) :
    Advances cache options m email host (.missed p cached) state (.converted p cached text) state
  | deliver {p : Prepared} {cached : Option CacheEntry} {text : String} {state : κ} :
    Advances cache options m email host (.converted p cached text) state (.delivered p text)
      (record (m.outage.cache cache) state cached email (fingerprint p.link)
        (restorePort options p.port text) m.now)
  | fail {stage : Stage} {failure : Failure} {state : κ} (going : stage.answer? options = none) :
    Advances cache options m email host stage state (.failed failure) state
  | rest {stage : Stage} {state : κ} : Advances cache options m email host stage state stage state

/-- **A step does nothing else.** -/
theorem advances_advance {κ : Type} (cache : CacheStore κ) (options : ClashOptions) (m : Moment)
    (email host : String) (stage : Stage) (state : κ) :
    Advances cache options m email host stage state
      (advance cache options m email host stage state).1
      (advance cache options m email host stage state).2 := by
  cases stage with
  | arrived =>
    rw [advance]
    split
    · exact .fail rfl
    · next p prepared => exact .render prepared
  | rendered p =>
    rw [advance]
    split
    · exact .fail rfl
    · next cached found =>
      split
      · next document hit =>
        obtain ⟨e, rfl, same, -, rfl⟩ := cachedAnswer?_eq_some.1 hit
        exact .hit found same
      · exact .miss found
  | missed p cached =>
    rw [advance]
    split
    · exact .fail rfl
    · next text converted => exact .convert converted
  | converted p cached text => exact .deliver
  | recalled p document => exact .rest
  | delivered p text => exact .rest
  | failed failure => exact .rest

/-- A number of steps in a row, at one moment. -/
def advances {κ : Type} (cache : CacheStore κ) (options : ClashOptions) (m : Moment)
    (email host : String) : Nat → Stage → κ → Stage × κ
  | 0, stage, state => (stage, state)
  | n + 1, stage, state =>
    let (stage, state) := advance cache options m email host stage state
    advances cache options m email host n stage state

/-- **Four steps in a row serve a request.** -/
theorem serve_eq_advance {κ : Type} (cache : CacheStore κ) (options : ClashOptions) (m : Moment)
    (email host : String) (state : κ) :
    let outcome := serve (m.outage.inbounds m.store) (m.outage.cache cache)
      (m.outage.converter m.convert) options m.now state email host
    let (stage, next) := advances cache options m email host 4 .arrived state
    stage.answer? options = some outcome.answer ∧ next = outcome.cache := by
  simp only [serve, advances, advance, Moment.prepared, Moment.converted]
  cases prepare (m.outage.inbounds m.store) options email host with
  | error failure => exact ⟨rfl, rfl⟩
  | ok p =>
    dsimp only
    cases (m.outage.cache cache).find? state email with
    | error fault => exact ⟨rfl, rfl⟩
    | ok cached =>
      dsimp only
      cases cachedAnswer? (fingerprint p.link) cached with
      | some document => exact ⟨rfl, rfl⟩
      | none =>
        dsimp only
        cases m.outage.converter m.convert p.link with
        | error fault => exact ⟨rfl, rfl⟩
        | ok text => exact ⟨rfl, rfl⟩

/-! ## A world to run in -/

/-- Plain names, and the usual placeholder. -/
def plainOptions : ClashOptions := ⟨"-ieo", 45556⟩

/-- An inbound with one client that listens on a port. -/
def edgeAt (port : Int64) : Inbound where
  id := 1
  remark := "Edge"
  enable := true
  port
  protocol := "vless"
  settings := "\x7b\"clients\":[\x7b\"id\":\"key\",\"email\":\"kim\",\"enable\":true\x7d]\x7d"
  streamSettings := "\x7b\x7d"

/-- A converter that writes the port of a link and nothing else. -/
def portConverter (_ : String) : Except Fault String := .ok "port: 45556"

end Clash
end ProxyFeed
