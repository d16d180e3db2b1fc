import ProxyFeed.Proofs.Clash.Serve
import Mathlib.Data.List.Induction
import Mathlib.Data.List.Nodup

/-!
# Requests at the same time

Any number of requests share one cache table, and their steps come in any order.  A request writes
with the entry that it found before its conversion, which may have been overwritten since; and of
two requests that found none, only the first can insert.

## What is here

* `CacheTable.Ordered` — identifiers increase and e-mails differ; `CacheEntry.identity` is what a
  row keeps for ever.
* `Clash.System` — a table and requests on their way; a `Clash.Event` is a step of one of them.
* `Clash.Faithful` — what a request holds is true: the link was rendered for it, the text is a
  conversion of that link, the entry it keeps is still in the table up to its contents.
* `Clash.Sound` — the invariant of all runs, kept by one step (`Clash.Sound.step`).
* `Clash.interleaving` — what it says of every reachable state.
-/

set_option autoImplicit false
namespace ProxyFeed

/-! ## The table -/

/-- What a row keeps for ever: its identifier, its e-mail, and the time of its creation. -/
def CacheEntry.identity (e : CacheEntry) : Int64 × String × Int64 := (e.id, e.email, e.createdAt)

namespace CacheTable

/-- What the rows of a table keep for ever. -/
def identities (t : CacheTable) : List (Int64 × String × Int64) := t.rows.map CacheEntry.identity

/-- Identifiers increase, none is beyond the last one used, and e-mails differ. -/
structure Ordered (t : CacheTable) : Prop where
  increasing : (t.identities.map (·.1)).Pairwise (· < ·)
  used : ∀ i ∈ t.identities.map (·.1), i ≤ t.lastId
  apart : (t.identities.map (·.2.1)).Nodup

theorem ordered_empty : Ordered {} := ⟨.nil, by simp [identities], .nil⟩

/-- Rows with the same identifier are the same row, as far as it is kept for ever. -/
theorem Ordered.identity_eq {t : CacheTable} (h : t.Ordered) {i j : Int64 × String × Int64}
    (hi : i ∈ t.identities) (hj : j ∈ t.identities) (same : i.1 = j.1) : i = j := by
  have nodup : (t.identities.map (·.1)).Nodup := h.increasing.imp fun lt => Int64.ne_of_lt lt
  exact List.inj_on_of_nodup_map nodup hi hj same

theorem Ordered.insert {t next : CacheTable} {e : CacheEntry} {id : Int64} (h : t.Ordered)
    (written : store.insert t e = .ok (id, next)) :
    next.Ordered ∧ next.identities = t.identities ++ [(id, e.email, e.createdAt)] := by
  obtain ⟨free, room, rfl, rfl⟩ := insert_eq_ok written
  have identities_eq : identities ⟨t.rows ++ [{ e with id := t.lastId + 1 }], t.lastId + 1⟩ =
      t.identities ++ [(t.lastId + 1, e.email, e.createdAt)] := by
    simp [identities, CacheEntry.identity]
  have later : t.lastId < t.lastId + 1 := by
    have top := t.lastId.toInt_lt
    have bottom := t.lastId.le_toInt
    have below : t.lastId.toInt ≠ 0x7FFFFFFFFFFFFFFF := fun e => room (Int64.toInt_inj.1 e)
    rw [Int64.lt_iff_toInt_lt, Int64.toInt_add, Int64.toInt_one, Int.bmod_eq_of_le]
    · omega
    · omega
    · omega
  refine ⟨⟨?_, ?_, ?_⟩, identities_eq⟩
  · rw [identities_eq, List.map_append, List.pairwise_append]
    refine ⟨h.increasing, List.pairwise_singleton _ _, fun i hi j hj => ?_⟩
    obtain rfl := List.mem_singleton.1 hj
    exact Int64.lt_of_le_of_lt (h.used i hi) later
  · rw [identities_eq, List.map_append]
    intro i hi
    rcases List.mem_append.1 hi with old | new
    · exact Int64.le_of_lt (Int64.lt_of_le_of_lt (h.used i old) later)
    · obtain rfl := List.mem_singleton.1 new
      exact Int64.le_refl _
  · rw [identities_eq, List.map_append, List.nodup_append]
    refine ⟨h.apart, List.nodup_singleton _, ?_⟩
    intro a ha b hb
    obtain rfl := List.mem_singleton.1 hb
    obtain ⟨i, hi, rfl⟩ := List.mem_map.1 ha
    obtain ⟨r, hr, rfl⟩ := List.mem_map.1 hi
    exact free r hr

theorem Ordered.update {t next : CacheTable} {e : CacheEntry} (h : t.Ordered)
    (there : e.identity ∈ t.identities) (written : store.update t e = .ok next) :
    next.Ordered ∧ next.identities = t.identities := by
  obtain ⟨-, rfl⟩ := update_eq_ok written
  have identities_eq :
      identities { t with rows := t.rows.map fun r => if r.id = e.id then e else r } =
        t.identities := by
    rw [identities, identities, List.map_map]
    refine List.map_congr_left fun r hr => ?_
    rw [Function.comp_apply]
    split
    · next same =>
      exact h.identity_eq there (List.mem_map_of_mem hr) same.symm
    · rfl
  refine ⟨⟨?_, ?_, ?_⟩, identities_eq⟩
  · rw [identities_eq]; exact h.increasing
  · rw [identities_eq]; exact h.used
  · rw [identities_eq]; exact h.apart

end CacheTable

namespace Clash

/-- Writing a document down keeps the table in order, and what its rows keep for ever. -/
theorem record_ordered {t : CacheTable} (h : t.Ordered) (o : Outage) {cached : Option CacheEntry}
    (there : ∀ e, cached = some e → e.identity ∈ t.identities) (email print document : String)
    (now : Int64) :
    (record (o.cache CacheTable.store) t cached email print document now).Ordered ∧
      t.identities <+:
        (record (o.cache CacheTable.store) t cached email print document now).identities := by
  obtain same | ⟨e, next, rfl, written, same⟩ | ⟨id, next, rfl, written, same⟩ :=
    record_cases (o.cache CacheTable.store) t cached email print document now
  · rw [same]
    exact ⟨h, List.prefix_rfl⟩
  · have overwritten : CacheTable.store.update t (renewed (some e) email print document now) =
        .ok next := Outage.guard_eq_ok written
    have kept : (renewed (some e) email print document now).identity ∈ t.identities := there e rfl
    obtain ⟨ordered, identities⟩ := h.update kept overwritten
    rw [same, identities]
    exact ⟨ordered, List.prefix_rfl⟩
  · obtain ⟨ordered, identities⟩ := h.insert (Outage.guard_eq_ok written)
    rw [same, identities]
    exact ⟨ordered, List.prefix_append _ _⟩

/-! ## Systems -/

/-- A request on its way. -/
structure Task where
  email : String
  host : String
  stage : Stage := .arrived
deriving DecidableEq, Repr

/-- The cache table, and the requests that share it. -/
structure System where
  table : CacheTable
  tasks : List Task
deriving DecidableEq, Repr

/-- A step: the request that takes it, and the world it meets. -/
structure Event where
  task : Nat
  moment : Moment

namespace System

/-- An empty table, and requests for e-mails from hosts. -/
def start (requests : List (String × String)) : System :=
  ⟨{}, requests.map fun r => { email := r.1, host := r.2 }⟩

/-- One request takes its next step. -/
def step (options : ClashOptions) (s : System) (ev : Event) : System :=
  match s.tasks[ev.task]? with
  | none => s
  | some t =>
    let (stage, table) :=
      advance CacheTable.store options ev.moment t.email t.host t.stage s.table
    ⟨table, s.tasks.set ev.task { t with stage }⟩

/-- Steps in any order. -/
def run (options : ClashOptions) (s : System) (evs : List Event) : System :=
  evs.foldl (step options) s

theorem run_append (options : ClashOptions) (s : System) (evs more : List Event) :
    s.run options (evs ++ more) = (s.run options evs).run options more :=
  List.foldl_append

theorem run_snoc (options : ClashOptions) (s : System) (evs : List Event) (ev : Event) :
    s.run options (evs ++ [ev]) = (s.run options evs).step options ev := by
  rw [run_append]
  rfl

/-- **What a step does to a system**: nothing, or one request takes a step and the others stay. -/
theorem step_cases (options : ClashOptions) (s : System) (ev : Event) :
    s.step options ev = s ∨
      ∃ t stage table, s.tasks[ev.task]? = some t ∧
        Advances CacheTable.store options ev.moment t.email t.host t.stage s.table stage table ∧
        s.step options ev = ⟨table, s.tasks.set ev.task { t with stage }⟩ := by
  rw [step]
  split
  · exact .inl rfl
  · next t there => exact .inr ⟨t, _, _, there, advances_advance _ _ _ _ _ _ _, rfl⟩

/-- The requests after one of them has taken a step. -/
theorem getElem?_set_cases {tasks : List Task} {n k : Nat} {t u : Task}
    (h : (tasks.set n t)[k]? = some u) : (k = n ∧ u = t) ∨ (k ≠ n ∧ tasks[k]? = some u) := by
  rw [List.getElem?_set] at h
  split at h
  · next same =>
    split at h
    · exact .inl ⟨same.symm, (Option.some.inj h).symm⟩
    · cases h
  · next other => exact .inr ⟨Ne.symm other, h⟩

end System

/-! ## What a request holds -/

/-- A step of a request rendered its link. -/
def RenderedIn (options : ClashOptions) (evs : List Event) (k : Nat) (t : Task) (p : Prepared) :
    Prop :=
  ∃ ev ∈ evs, ev.task = k ∧ ev.moment.prepared options t.email t.host = .ok p

/-- A step of a request had a link converted. -/
def ConvertedBy (evs : List Event) (k : Nat) (link text : String) : Prop :=
  ∃ ev ∈ evs, ev.task = k ∧ ev.moment.converted link = .ok text

/-- A document was in the table, under an e-mail and a fingerprint, at some time of a run. -/
def StoredIn (options : ClashOptions) (start : System) (evs : List Event)
    (email print document : String) : Prop :=
  ∃ earlier, earlier <+: evs ∧ ∃ r ∈ (start.run options earlier).table.rows,
    r.email = email ∧ r.urlFingerprint = print ∧ r.yamlContent = document

/-- What the `k`-th request holds is true: it was served with the link that a step of its own
rendered, its text is a conversion of that link, the entry it keeps belongs to its e-mail and is
still in the table up to its contents, and a document from the cache was there under the fingerprint
of the link. -/
structure Faithful (options : ClashOptions) (start : System) (evs : List Event) (k : Nat)
    (t : Task) : Prop where
  rendered : ∀ p, t.stage.prepared? = some p → RenderedIn options evs k t p
  converted : ∀ p text, t.stage.prepared? = some p → t.stage.text? = some text →
    ConvertedBy evs k p.link text
  kept : ∀ e, t.stage.kept? = some e →
    e.email = t.email ∧ e.identity ∈ (start.run options evs).table.identities
  recalled : ∀ p document, t.stage = .recalled p document →
    StoredIn options start evs t.email (fingerprint p.link) document

/-- Where a row comes from: one request delivered its contents, under the fingerprint of the link
that was converted. -/
def Delivered (options : ClashOptions) (tasks : List Task) (r : CacheEntry) : Prop :=
  ∃ (k : Nat) (t : Task) (p : Prepared) (text : String), tasks[k]? = some t ∧
    t.email = r.email ∧ t.stage = .delivered p text ∧ r.urlFingerprint = fingerprint p.link ∧
    r.yamlContent = restorePort options p.port text

/-- The invariant of all runs. -/
structure Sound (options : ClashOptions) (start : System) (evs : List Event) : Prop where
  ordered : (start.run options evs).table.Ordered
  faithful : ∀ k t, (start.run options evs).tasks[k]? = some t →
    Faithful options start evs k t
  delivered : ∀ r ∈ (start.run options evs).table.rows,
    Delivered options (start.run options evs).tasks r

variable {options : ClashOptions} {start : System} {evs : List Event} {ev : Event}

/-- What a request holds stays true while others take steps. -/
theorem Faithful.mono {k : Nat} {t : Task} (h : Faithful options start evs k t)
    (grown : (start.run options evs).table.identities <+:
      (start.run options (evs ++ [ev])).table.identities) :
    Faithful options start (evs ++ [ev]) k t where
  rendered p hp := by
    obtain ⟨e, he, facts⟩ := h.rendered p hp
    exact ⟨e, List.mem_append_left _ he, facts⟩
  converted p text hp ht := by
    obtain ⟨e, he, facts⟩ := h.converted p text hp ht
    exact ⟨e, List.mem_append_left _ he, facts⟩
  kept e he := by
    obtain ⟨named, there⟩ := h.kept e he
    exact ⟨named, grown.subset there⟩
  recalled p document hd := by
    obtain ⟨earlier, before, facts⟩ := h.recalled p document hd
    exact ⟨earlier, before.trans (List.prefix_append _ _), facts⟩

/-- What a request holds after a step of its own is true. -/
theorem Faithful.advance {t : Task} {stage : Stage} {table : CacheTable}
    (h : Faithful options start evs ev.task t)
    (step : Advances CacheTable.store options ev.moment t.email t.host t.stage
      (start.run options evs).table stage table)
    (grown : (start.run options evs).table.identities <+:
      (start.run options (evs ++ [ev])).table.identities) :
    Faithful options start (evs ++ [ev]) ev.task { t with stage } := by
  have before := h.mono grown
  have last : ev ∈ evs ++ [ev] := by simp
  obtain ⟨email, host, former⟩ := t
  cases step with
  | render prepared =>
    exact
      { rendered := by
          rintro p hp
          obtain rfl := Option.some.inj hp
          exact ⟨ev, last, rfl, prepared⟩
        converted := nofun
        kept := nofun
        recalled := nofun }
  | hit found same =>
    obtain ⟨held, named⟩ := (CacheTable.keeps.outage _).mem_of_find? found
    exact
      { rendered := before.rendered
        converted := nofun
        kept := nofun
        recalled := by
          rintro p document hd
          obtain ⟨rfl, rfl⟩ := Stage.recalled.inj hd
          exact ⟨evs, List.prefix_append _ _, _, held, named, same, rfl⟩ }
  | miss found =>
    exact
      { rendered := before.rendered
        converted := nofun
        kept := by
          rintro e rfl
          obtain ⟨held, named⟩ := (CacheTable.keeps.outage _).mem_of_find? found
          exact ⟨named, grown.subset (List.mem_map_of_mem held)⟩
        recalled := nofun }
  | convert converted =>
    exact
      { rendered := before.rendered
        converted := by
          rintro p text hp ht
          obtain rfl := Option.some.inj hp
          obtain rfl := Option.some.inj ht
          exact ⟨ev, last, rfl, converted⟩
        kept := before.kept
        recalled := nofun }
  | deliver =>
    exact
      { rendered := before.rendered
        converted := before.converted
        kept := nofun
        recalled := nofun }
  | fail going => exact { rendered := nofun, converted := nofun, kept := nofun, recalled := nofun }
  | rest => exact before

/-- A request that has delivered its document had the link converted that it rendered. -/
theorem Faithful.of_delivered {k : Nat} {t : Task} {p : Prepared} {text : String}
    (h : Faithful options start evs k t) (delivered : t.stage = .delivered p text) :
    RenderedIn options evs k t p ∧ ConvertedBy evs k p.link text := by
  have prepared : t.stage.prepared? = some p := by rw [delivered]; rfl
  have converted : t.stage.text? = some text := by rw [delivered]; rfl
  exact ⟨h.rendered p prepared, h.converted p text prepared converted⟩

/-- What a step does to the table: it stays in order, its rows keep what they keep for ever, and
the contents of a row are new only if the request has just delivered them. -/
theorem Advances.table {t : CacheTable} {m : Moment} {email host : String} {former stage : Stage}
    {next : CacheTable}
    (step : Advances CacheTable.store options m email host former t stage next) (h : t.Ordered)
    (kept : ∀ e, former.kept? = some e → e.email = email ∧ e.identity ∈ t.identities) :
    next.Ordered ∧ t.identities <+: next.identities ∧
      ∀ r ∈ next.rows, r ∈ t.rows ∨
        ∃ p text, stage = .delivered p text ∧ r.email = email ∧
          r.urlFingerprint = fingerprint p.link ∧
          r.yamlContent = restorePort options p.port text := by
  cases step with
  | @deliver p cached text state =>
    obtain ⟨ordered, grown⟩ := record_ordered h m.outage (fun e he => (kept e he).2) email
      (fingerprint p.link) (restorePort options p.port text) m.now
    refine ⟨ordered, grown, fun r hr => ?_⟩
    have named : ∀ e, cached = some e → e.email = email := fun e he => (kept e he).1
    rcases mem_record (CacheTable.keeps.outage _) named r hr with old | ⟨named, print, document⟩
    · exact .inl old
    · exact .inr ⟨p, text, rfl, named, print, document⟩
  | render | hit | miss | convert | fail | rest =>
    exact ⟨h, List.prefix_rfl, fun r hr => .inl hr⟩

/-- A request that has delivered its document takes no more steps. -/
theorem Advances.of_delivered {t next : CacheTable} {m : Moment} {email host : String}
    {p : Prepared} {text : String} {stage : Stage}
    (step : Advances CacheTable.store options m email host (.delivered p text) t stage next) :
    stage = .delivered p text := by
  cases step with
  | fail going => cases going
  | rest => rfl

/-- **One step keeps the invariant.** -/
theorem Sound.step (h : Sound options start evs) (ev : Event) :
    Sound options start (evs ++ [ev]) := by
  have snoc := System.run_snoc options start evs ev
  rcases System.step_cases options (start.run options evs) ev with
    same | ⟨t, stage, table, there, advances, next⟩
  · rw [same] at snoc
    have grown : (start.run options evs).table.identities <+:
        (start.run options (evs ++ [ev])).table.identities := by
      simp only [snoc, List.prefix_rfl]
    refine ⟨?_, ?_, ?_⟩
    · rw [snoc]; exact h.ordered
    · intro k t ht
      rw [snoc] at ht
      exact (h.faithful k t ht).mono grown
    · rw [snoc]; exact h.delivered
  · rw [next] at snoc
    have own := h.faithful ev.task t there
    obtain ⟨ordered, grown, rows⟩ := advances.table h.ordered own.kept
    have grown' : (start.run options evs).table.identities <+:
        (start.run options (evs ++ [ev])).table.identities := by
      rw [snoc]; exact grown
    have set_self : ((start.run options evs).tasks.set ev.task { t with stage })[ev.task]? =
        some { t with stage } :=
      List.getElem?_set_self (List.getElem?_eq_some_iff.1 there).1
    refine ⟨?_, ?_, ?_⟩
    · rw [snoc]; exact ordered
    · intro k u hu
      rw [snoc] at hu
      rcases System.getElem?_set_cases hu with ⟨rfl, rfl⟩ | ⟨-, old⟩
      · exact own.advance advances grown'
      · exact (h.faithful k u old).mono grown'
    · intro r hr
      rw [snoc] at hr ⊢
      rcases rows r hr with old | ⟨p, text, rfl, named, print, document⟩
      · -- the request that delivered the row has come to its end, and is still there
        obtain ⟨k, u, p, text, hu, named, delivered, print, document⟩ := h.delivered r old
        refine ⟨k, u, p, text, ?_, named, delivered, print, document⟩
        by_cases own_row : k = ev.task
        · subst own_row
          obtain rfl := Option.some.inj (there.symm.trans hu)
          rw [delivered] at advances
          rw [set_self, advances.of_delivered, ← delivered]
        · rw [List.getElem?_set_ne (Ne.symm own_row)]
          exact hu
      · exact ⟨ev.task, _, p, text, set_self, named.symm, rfl, print, document⟩

/-- **Every run from an empty table keeps the invariant.** -/
theorem sound (options : ClashOptions) (requests : List (String × String)) (evs : List Event) :
    Sound options (System.start requests) evs := by
  induction evs using List.reverseRecOn with
  | nil =>
    refine ⟨CacheTable.ordered_empty, fun k t ht => ?_, fun r hr => absurd hr List.not_mem_nil⟩
    obtain ⟨request, -, rfl⟩ := List.mem_map.1 (List.mem_of_getElem? ht)
    exact { rendered := nofun, converted := nofun, kept := nofun, recalled := nofun }
  | append_singleton evs ev ih => exact ih.step ev

/-- What the rows of a table keep for ever, they keep through any number of further steps. -/
theorem identities_prefix (options : ClashOptions) (requests : List (String × String))
    (evs more : List Event) :
    ((System.start requests).run options evs).table.identities <+:
      ((System.start requests).run options (evs ++ more)).table.identities := by
  induction more using List.reverseRecOn with
  | nil =>
    simp only [List.append_nil, List.prefix_rfl]
  | append_singleton more ev ih =>
    refine ih.trans ?_
    have h := sound options requests (evs ++ more)
    rw [← List.append_assoc, System.run_snoc]
    rcases System.step_cases options ((System.start requests).run options (evs ++ more)) ev with
      same | ⟨t, stage, table, there, advances, next⟩
    · simp only [same, List.prefix_rfl]
    · rw [next]
      exact (advances.table h.ordered (h.faithful ev.task t there).kept).2.1

/-- **What holds in every reachable state**, whatever the order of the steps and whatever the world
does between them: no two rows have the same e-mail; fingerprint and document of a row come from one
request for its e-mail; no row disappears, nor changes its identifier, its e-mail or the time of its
creation; and an answer is the request's own conversion, or was stored under the fingerprint of its
own link. -/
theorem interleaving (options : ClashOptions) (requests : List (String × String))
    (evs : List Event) :
    let start := System.start requests
    let s := start.run options evs
    (s.table.rows.map (·.email)).Nodup ∧
      (∀ r ∈ s.table.rows, ∃ (k : Nat) (t : Task) (p : Prepared) (text : String),
        s.tasks[k]? = some t ∧ t.email = r.email ∧ RenderedIn options evs k t p ∧
          ConvertedBy evs k p.link text ∧ r.urlFingerprint = fingerprint p.link ∧
          r.yamlContent = restorePort options p.port text) ∧
      (∀ more, s.table.identities <+: (start.run options (evs ++ more)).table.identities) ∧
      ∀ (k : Nat) (t : Task) (answer : String), s.tasks[k]? = some t →
        t.stage.answer? options = some (.ok answer) → ∃ p, RenderedIn options evs k t p ∧
          ((∃ text, ConvertedBy evs k p.link text ∧ answer = restorePort options p.port text) ∨
            StoredIn options start evs t.email (fingerprint p.link) answer) := by
  have h := sound options requests evs
  refine ⟨?_, ?_, identities_prefix options requests evs, ?_⟩
  · have apart := h.ordered.apart
    rw [CacheTable.identities, List.map_map] at apart
    exact apart
  · intro r hr
    obtain ⟨k, t, p, text, there, named, delivered, print, document⟩ := h.delivered r hr
    obtain ⟨rendered, converted⟩ := (h.faithful k t there).of_delivered delivered
    exact ⟨k, t, p, text, there, named, rendered, converted, print, document⟩
  · intro k t answer there answered
    have own := h.faithful k t there
    rcases Stage.answer?_eq_ok answered with ⟨p, recalled⟩ | ⟨p, text, delivered, rfl⟩
    · have prepared : t.stage.prepared? = some p := by rw [recalled]; rfl
      exact ⟨p, own.rendered p prepared, .inr (own.recalled p answer recalled)⟩
    · obtain ⟨rendered, converted⟩ := own.of_delivered delivered
      exact ⟨p, rendered, .inl ⟨text, converted, rfl⟩⟩

/-- The world while the inbound listens on a port. -/
def momentAt (port now : Int64) : Moment :=
  ⟨MemoryInbounds.store [edgeAt port], portConverter, now, {}⟩

/-- Two requests for one e-mail, both past the look into the cache before either writes; the inbound
moves from port 443 to port 8443 between their renderings. -/
def race : List Event :=
  [⟨0, momentAt 443 1⟩, ⟨0, momentAt 443 2⟩, ⟨1, momentAt 8443 3⟩, ⟨1, momentAt 8443 4⟩,
    ⟨1, momentAt 8443 5⟩, ⟨0, momentAt 8443 6⟩, ⟨1, momentAt 8443 7⟩, ⟨0, momentAt 8443 8⟩]

/-- Only the first write of a race gets into the table. -/
theorem interleaving_race :
    let s := (System.start [("kim", "h.example"), ("kim", "h.example")]).run plainOptions race
    s.table.rows.map (fun r => (r.email, r.yamlContent, r.createdAt)) = [("kim", "port: 8443", 7)] ∧
      (s.tasks.map fun t => t.stage.answer? plainOptions) =
        [some (.ok "port: 443"), some (.ok "port: 8443")] ∧
      (s.table.rows.map (·.email)).Nodup :=
  ⟨by decide +kernel, by decide +kernel, (interleaving _ _ race).1⟩

end Clash
end ProxyFeed
