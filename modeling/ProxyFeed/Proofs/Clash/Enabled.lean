import ProxyFeed.Proofs.Clash.Serve
import ProxyFeed.Proofs.Fallback.Resolve
import ProxyFeed.Proofs.Store.Agreement
import ProxyFeed.Proofs.Subscription.OwnRecord

/-!
# Whose link is converted

Three selections lead from an e-mail to a link: the store looks for an inbound that lists the
e-mail, whoever it belongs to; the disabled clients of that inbound are left out; and the first of
the rest with the e-mail is rendered.  So what reaches the converter is always the link of an
enabled client, and if the first inbound found has the e-mail on disabled clients only, there is no
answer, not even one that is still in the cache.

## What is here

* `Backend.lists` — does an inbound list an e-mail, as the lookup of the store sees it?
* `Backend.IsFirstListing` — the inbound that is looked at, and `Backend.byClientEmail_iff`, which
  ties it to the lookup.
* `Backend.lists_of_isSettings` and `Backend.isFirstListing_iff_find?` — on settings that were
  written by a program, it is the first inbound with a client of that e-mail.
* `Clash.renderLink_eq` — the link of the first enabled client of an e-mail.
* `Clash.converted_for_enabled_client` — what is sent to the converter, and when nothing is.
-/

set_option autoImplicit false
namespace ProxyFeed

/-! ## The inbound of an e-mail -/

namespace Database

/-- What the query for an e-mail asks of a row: does its settings column hold a client with the
e-mail? -/
def mentions (email : String) (i : Inbound) : Except MalformedJson Bool := do
  JsonColumn.firstOf "email" email (← JsonColumn.clients i.settings)

/-- The first row that passes a test: the rows before it can be tested, and do not pass. -/
def IsFirst (test : Inbound → Except MalformedJson Bool) (rows : List Inbound) (i : Inbound) :
    Prop :=
  ∃ before after, rows = before ++ i :: after ∧ test i = .ok true ∧ ∀ j ∈ before, test j = .ok false

variable {test : Inbound → Except MalformedJson Bool} {rows : List Inbound} {i : Inbound}

theorem isFirst_cons_iff {row : Inbound} : IsFirst test (row :: rows) i ↔
    (row = i ∧ test row = .ok true) ∨ (test row = .ok false ∧ IsFirst test rows i) := by
  constructor
  · rintro ⟨before, after, split, passes, others⟩
    rcases List.cons_eq_append_iff.1 split with ⟨rfl, here⟩ | ⟨more, rfl, rest⟩
    · obtain ⟨rfl, -⟩ := List.cons.inj here
      exact .inl ⟨rfl, passes⟩
    · obtain ⟨fails, others⟩ := List.forall_mem_cons.1 others
      exact .inr ⟨fails, more, after, rest, passes, others⟩
  · rintro (⟨rfl, passes⟩ | ⟨fails, before, after, rfl, passes, others⟩)
    · exact ⟨[], rows, rfl, passes, fun _ h => absurd h List.not_mem_nil⟩
    · exact ⟨row :: before, after, rfl, passes, List.forall_mem_cons.2 ⟨fails, others⟩⟩

/-- **A query for one row finds the first row that passes.** -/
theorem selectFirst_eq_some_iff : selectFirst test rows = .ok (some i) ↔ IsFirst test rows i := by
  induction rows with
  | nil => simp [selectFirst, IsFirst]
  | cons row rows ih =>
    rw [isFirst_cons_iff, ← ih, selectFirst]
    cases test row with
    | error e =>
      constructor
      · intro impossible
        cases impossible
      · rintro (⟨-, impossible⟩ | ⟨impossible, -⟩) <;> cases impossible
    | ok passes =>
      cases passes with
      | true =>
        refine ⟨fun here => .inl ⟨Option.some.inj (Except.ok.inj here), rfl⟩, ?_⟩
        rintro (⟨rfl, -⟩ | ⟨impossible, -⟩)
        · rfl
        · cases impossible
      | false =>
        refine ⟨fun later => .inr ⟨rfl, later⟩, ?_⟩
        rintro (⟨-, impossible⟩ | ⟨-, later⟩)
        · cases impossible
        · exact later

theorem selectFirst_map {f : Inbound → Inbound}
    (same : ∀ i, test (f i) = test i) (rows : List Inbound) :
    selectFirst test (rows.map f) = (selectFirst test rows).map (Option.map f) := by
  induction rows with
  | nil => rfl
  | cons row rows ih =>
    rw [List.map_cons, selectFirst, selectFirst, same row, ih]
    cases test row with
    | error e => rfl
    | ok passed => cases passed <;> rfl

end Database

namespace Backend

/-- The inbounds in the order in which they are looked at, with their traffic. -/
def rows : Backend → List Inbound
  | .memory inbounds _ => inbounds
  | .database db => db.inbounds.map db.withStats

/-- Does an inbound list a client with an e-mail?  In memory its clients are read, and one whose
clients cannot be read lists nobody; a database has its JSON functions look into the settings, which
may fail. -/
def lists (b : Backend) (email : String) (i : Inbound) : Except MalformedJson Bool :=
  match b with
  | .memory _ _ =>
    .ok (match i.clients? with
      | some clients => clients.any (·.email = email)
      | none => false)
  | .database _ => Database.mentions email i

/-- The first enabled inbound of a linkable protocol that lists a client with an e-mail. -/
def IsFirstListing (b : Backend) (email : String) (i : Inbound) : Prop :=
  Database.IsFirst (b.lists email) (b.rows.filter Inbound.isLinkable) i

/-- **The lookup finds the first inbound that lists the e-mail.** -/
theorem byClientEmail_iff (b : Backend) (email : String) (i : Inbound) :
    b.inboundStore.byClientEmail email = .ok (some i) ↔ b.IsFirstListing email i := by
  rw [IsFirstListing, ← Database.selectFirst_eq_some_iff]
  cases b with
  | memory inbounds cache =>
    have tested : Database.selectFirst ((memory inbounds cache).lists email)
        (inbounds.filter Inbound.isLinkable) = .ok (MemoryInbounds.byClientEmail inbounds email) :=
      Database.selectFirst_eq_find? fun _ _ => rfl
    rw [rows, tested]
    exact ⟨fun h => congrArg Except.ok (Except.ok.inj h),
      fun h => congrArg Except.ok (Except.ok.inj h)⟩
  | database db =>
    have linkable : (db.inbounds.map db.withStats).filter Inbound.isLinkable =
        (db.inbounds.filter Inbound.isLinkable).map db.withStats := List.filter_map
    have settings (i : Inbound) :
        (database db).lists email (db.withStats i) = (database db).lists email i := rfl
    have tested : Database.selectFirst ((database db).lists email)
        ((db.inbounds.filter Inbound.isLinkable).map db.withStats) =
          (db.byClientEmail email).map (Option.map db.withStats) :=
      Database.selectFirst_map settings _
    rw [rows, linkable, tested]
    show (Database.answer _ (db.byClientEmail email)).map _ = _ ↔ _
    cases db.byClientEmail email with
    | error e =>
      cases e
      constructor <;> intro impossible <;> cases impossible
    | ok found => exact ⟨fun h => congrArg Except.ok (Except.ok.inj h),
        fun h => congrArg Except.ok (Except.ok.inj h)⟩

/-- **On settings that were written by a program, both kinds of backends test the clients**, so the
e-mail is one of those that the rest of the program reads. -/
theorem lists_of_isSettings (b : Backend) {i : Inbound} {v : Json}
    (written : v.compact = i.settings) (shaped : v.IsSettings) (email : String) :
    ∃ clients, i.clients? = some clients ∧
      b.lists email i = .ok (clients.any (·.email = email)) := by
  obtain ⟨clients, read, fields⟩ := Client.listOfText?_compact shaped
  rw [written] at read
  refine ⟨clients, read, ?_⟩
  cases b with
  | memory inbounds cache =>
    have own : i.clients? = some clients := read
    rw [lists, own]
  | database db =>
    have tested := shaped.firstOf_clients email
    rw [written] at tested
    rw [Client.any_eq_of_forall₂ (fields.imp fun _ _ same => same.2) email]
    exact tested

/-- **The inbound that is looked at is then the first one with a client of that e-mail**, of those
that are enabled and of a linkable protocol, in a database as well as in memory. -/
theorem isFirstListing_iff_find? {b : Backend} {tree : String → Json}
    (written : ∀ i ∈ b.rows, (tree i.settings).compact = i.settings)
    (shaped : ∀ i ∈ b.rows, (tree i.settings).IsSettings) (email : String) (i : Inbound) :
    b.IsFirstListing email i ↔ ((b.rows.filter Inbound.isLinkable).find? fun j =>
      (j.clients?.getD []).any (·.email = email)) = some i := by
  have tested : ∀ j ∈ b.rows.filter Inbound.isLinkable,
      b.lists email j = .ok ((j.clients?.getD []).any (·.email = email)) := by
    intro j hj
    have listed := List.mem_of_mem_filter hj
    obtain ⟨clients, read, lists_eq⟩ :=
      b.lists_of_isSettings (written j listed) (shaped j listed) email
    rw [lists_eq, read, Option.getD_some]
  rw [IsFirstListing, ← Database.selectFirst_eq_some_iff, Database.selectFirst_eq_find? tested,
    Except.ok.injEq]

end Backend

/-- Seen through its master, an inbound has the same clients. -/
theorem Fallback.resolve_clients? (store : InboundStore) (i : Inbound) :
    (Fallback.resolve store i).clients? = i.clients? := by
  obtain ⟨_, _, _, same⟩ := Fallback.resolve_eq_self_apart store i
  rw [same]
  rfl

namespace Clash

/-! ## The link of a client -/

/-- The first enabled client with an e-mail. -/
def enabledNamed (email : String) (clients : List Client) : Option Client :=
  clients.find? fun c => c.enable ∧ c.email = email

theorem enabledNamed_eq_some {email : String} {clients : List Client} {c : Client}
    (h : enabledNamed email clients = some c) : c ∈ clients ∧ c.enable ∧ c.email = email := by
  have both := List.find?_some h
  exact ⟨List.mem_of_find?_eq_some h, by simpa using both⟩

/-- **The link to convert is that of the first enabled client with the e-mail.** -/
theorem renderLink_eq (options : ClashOptions) (inbound : Inbound) (email host : String) :
    renderLink options inbound email host =
      match inbound.clients?.bind (enabledNamed email) with
      | some client =>
        (Link.ofRecord (context options host) inbound client (ChaCha.ofSeed (seedOf email))).1
      | none => "" := by
  rw [renderLink]
  cases inbound.clients? with
  | none => rfl
  | some clients =>
    have named : (clients.filter (·.enable)).find? (·.email = email) =
        enabledNamed email clients := by
      rw [List.find?_filter, enabledNamed]
      simp
    rw [Option.bind_some]
    dsimp only
    rw [Link.generate_eq, named]
    cases enabledNamed email clients <;> rfl

/-- A link that was rendered is that of an enabled client. -/
theorem exists_enabledNamed_of_renderLink {options : ClashOptions} {inbound : Inbound}
    {email host : String} (rendered : renderLink options inbound email host ≠ "") :
    ∃ clients client, inbound.clients? = some clients ∧
      enabledNamed email clients = some client ∧ renderLink options inbound email host =
        (Link.ofRecord (context options host) inbound client (ChaCha.ofSeed (seedOf email))).1 := by
  rw [renderLink_eq] at rendered ⊢
  cases read : inbound.clients? with
  | none =>
    rw [read] at rendered
    exact absurd rfl rendered
  | some clients =>
    rw [read, Option.bind_some] at rendered
    cases named : enabledNamed email clients with
    | none =>
      rw [named] at rendered
      exact absurd rfl rendered
    | some client =>
      rw [Option.bind_some, named]
      exact ⟨clients, client, rfl, named, rfl⟩

/-- Nothing is rendered for an e-mail that only disabled clients have. -/
theorem renderLink_of_disabled {inbound : Inbound} {email : String}
    (disabled : ∀ clients, inbound.clients? = some clients →
      ∀ c ∈ clients, c.email = email → c.enable = false) (options : ClashOptions) (host : String) :
    renderLink options inbound email host = "" := by
  by_contra rendered
  obtain ⟨clients, client, read, named, -⟩ := exists_enabledNamed_of_renderLink rendered
  obtain ⟨there, enabled, same⟩ := enabledNamed_eq_some named
  rw [disabled clients read client there same] at enabled
  cases enabled

section Serve

variable {κ : Type} {store : InboundStore} {cache : CacheStore κ}
  {convert : String → Except Fault String} {options : ClashOptions} {now : Int64} {state : κ}
  {email host : String}

/-- What is sent to the converter is the link that was prepared. -/
theorem prepared_of_sent {link : String}
    (h : (serve store cache convert options now state email host).sent = some link) :
    ∃ port, prepare store options email host = .ok ⟨link, port⟩ := by
  have exit := exit_serve store cache convert options now state email host
  generalize serve store cache convert options now state email host = outcome at h exit
  cases exit with
  | unprepared | unread | recalled => cases h
  | @unconverted p _ _ prepared | @delivered p _ _ prepared =>
    obtain rfl := Option.some.inj h
    exact ⟨p.port, prepared⟩

/-- What is prepared is the link of the inbound that the store finds, seen from outside. -/
theorem prepare_eq_ok {p : Prepared} (h : prepare store options email host = .ok p) :
    ∃ inbound, store.byClientEmail email = .ok (some inbound) ∧ p.link ≠ "" ∧
      p.link = renderLink options (Fallback.resolve store inbound) email host := by
  rw [prepare] at h
  split at h
  · cases h
  · cases h
  · next inbound found =>
    dsimp only at h
    split at h
    · cases h
    · next rendered =>
      obtain rfl := Except.ok.inj h
      exact ⟨inbound, found, rendered, rfl⟩

/-- Where nothing is rendered, a request is not found, and neither the converter nor the cache is
asked. -/
theorem serve_of_unrendered {inbound : Inbound}
    (found : store.byClientEmail email = .ok (some inbound))
    (unrendered : renderLink options (Fallback.resolve store inbound) email host = "") :
    serve store cache convert options now state email host =
      ⟨.error (.notFound ("link for client " ++ email)), none, state⟩ := by
  have refused : prepare store options email host =
      .error (.notFound ("link for client " ++ email)) := by
    rw [prepare, found]
    exact if_pos unrendered
  exact (Exit.unprepared refused).serve_eq

end Serve

/-- **No disabled credential reaches the converter**: what is sent there is the link of the first
enabled client with the e-mail, in the first enabled inbound of a linkable protocol that lists the
e-mail at all.  If that inbound has it on disabled clients only, the client is not found, nothing is
sent, and the cache is not even looked at. -/
theorem converted_for_enabled_client {κ : Type} (b : Backend) (cache : CacheStore κ)
    (convert : String → Except Fault String) (options : ClashOptions) (now : Int64) (state : κ)
    (email host : String) :
    let outcome := serve b.inboundStore cache convert options now state email host
    (∀ link, outcome.sent = some link → ∃ inbound clients client,
      b.IsFirstListing email inbound ∧ inbound.clients? = some clients ∧
        clients.find? (fun c => c.enable ∧ c.email = email) = some client ∧
        link = (Link.ofRecord (context options host) (Fallback.resolve b.inboundStore inbound)
          client (ChaCha.ofSeed (seedOf email))).1) ∧
      ∀ inbound, b.IsFirstListing email inbound →
        (∀ clients, inbound.clients? = some clients →
          ∀ c ∈ clients, c.email = email → c.enable = false) →
        outcome = ⟨.error (.notFound ("link for client " ++ email)), none, state⟩ := by
  intro outcome
  constructor
  · intro link sent
    obtain ⟨port, prepared⟩ := prepared_of_sent sent
    obtain ⟨inbound, found, rendered, link_eq⟩ := prepare_eq_ok prepared
    dsimp only at rendered link_eq
    rw [link_eq] at rendered
    obtain ⟨clients, client, read, named, text⟩ := exists_enabledNamed_of_renderLink rendered
    rw [Fallback.resolve_clients?] at read
    have first := (b.byClientEmail_iff email inbound).1 found
    exact ⟨inbound, clients, client, first, read, named, link_eq.trans text⟩
  · intro inbound first disabled
    refine serve_of_unrendered ((b.byClientEmail_iff email inbound).2 first) ?_
    refine renderLink_of_disabled (fun clients read => disabled clients ?_) options host
    rwa [Fallback.resolve_clients?] at read

/-- The inbound where `kim` was given to a new client, before that client was added. -/
def withdrawn : Inbound :=
  { Subscription.reassigned with
    settings := "\x7b\"clients\":[\x7b\"id\":\"retired\",\"email\":\"kim\"\x7d]\x7d" }

/-- A cache that still has a document for `kim`. -/
def stale : MemoryCache := ⟨[⟨1, "kim", "0", "port: 443", 0, 0⟩], false⟩

/-- The old client of `kim` is disabled: once there is a new one, its link is converted; before
that, nothing is, whatever the cache has. -/
theorem converted_for_enabled_client_kim :
    (∃ inbound clients client,
      (Backend.memory [Subscription.reassigned] stale).IsFirstListing "kim" inbound ∧
        inbound.clients? = some clients ∧
        clients.find? (fun c => c.enable ∧ c.email = "kim") = some client ∧
        "vless://current@h.example:45556?security=none&type=tcp#Edge-kim" =
          (Link.ofRecord (context plainOptions "h.example")
            (Fallback.resolve (MemoryInbounds.store [Subscription.reassigned]) inbound)
            client (ChaCha.ofSeed (seedOf "kim"))).1) ∧
      serve (MemoryInbounds.store [withdrawn]) MemoryCache.store portConverter plainOptions 0 stale
          "kim" "h.example" =
        ⟨.error (.notFound "link for client kim"), none, stale⟩ := by
  have sent : (serve (MemoryInbounds.store [Subscription.reassigned]) MemoryCache.store
      portConverter plainOptions 0 stale "kim" "h.example").sent =
        some "vless://current@h.example:45556?security=none&type=tcp#Edge-kim" := by
    decide +kernel
  have listed : (Backend.memory [withdrawn] stale).IsFirstListing "kim" withdrawn :=
    ⟨[], [], by decide +kernel, by decide +kernel, fun _ h => absurd h List.not_mem_nil⟩
  have disabled : ∀ clients, withdrawn.clients? = some clients →
      ∀ c ∈ clients, c.email = "kim" → c.enable = false := by
    have all : ∀ clients ∈ withdrawn.clients?.toList, ∀ c ∈ clients, c.email = "kim" →
        c.enable = false := by
      decide +kernel
    exact fun clients h => all clients (Option.mem_toList.2 h)
  exact ⟨(converted_for_enabled_client (.memory [Subscription.reassigned] stale) MemoryCache.store
      portConverter plainOptions 0 stale "kim" "h.example").1 _ sent,
    (converted_for_enabled_client (.memory [withdrawn] stale) MemoryCache.store portConverter
      plainOptions 0 stale "kim" "h.example").2 withdrawn listed disabled⟩

end Clash
end ProxyFeed
