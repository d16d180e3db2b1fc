import ProxyFeed.Proofs.Link.Draft

/-!
# Randomness reaches a link through its spider path

Rendering takes at most one thing from a source of randomness, a spider path.  Inbounds whose links
carry none do not touch the source; for the others the path is drawn once, before the links are
told apart, so all of them show the same one and nothing else about them is random.

## What is here

* `Spider.drawLetter_of_firstLetter` — a letter is the first word that stands for one, however long
  a draw would have waited for it.
* `Spider.IsPath` — a slash and fifteen letters or digits; every draw is one.
* `SpiderSource.after` and `SpiderSource.path` — the states and the paths of a sequence of draws.
* `Link.CarriesSpider` — do the links of an inbound carry a spider path?
* `Link.SameButSpider` — texts apart from their spider paths, for renderings from any two sources.
* `Link.OneDraw` — what is random about a rendering that carries one.
* `Link.randomness_is_spider` — two renderings, and a sequence of them.
-/

set_option autoImplicit false
namespace ProxyFeed

/-! ## Drawing paths -/

namespace Spider

/-- A slash and fifteen letters or digits. -/
def IsPath (path : String) : Prop :=
  ∃ cs : List Char, path = String.ofList ('/' :: cs) ∧ cs.length = 15 ∧ ∀ c ∈ cs, c.isAlphanum

theorem isAlphanum_of_mem_alphabet : ∀ c ∈ alphabet, c.isAlphanum = true := by decide

variable {ρ : Type} [WordSource ρ]

/-- The state after a number of words. -/
def afterWords : Nat → ρ → ρ
  | 0, s => s
  | n + 1, s => afterWords n (WordSource.next s).2

/-- Of the words to come, the one at a place is the first that stands for a letter. -/
def FirstLetter (c : Char) : Nat → ρ → Prop
  | 0, s => letter? (WordSource.next s).1 = some c
  | k + 1, s => letter? (WordSource.next s).1 = none ∧ FirstLetter c k (WordSource.next s).2

/-- **A draw that ends is its first letter**: the words before it are passed over, and how many of
them would have been passed over makes no difference. -/
theorem drawLetter_of_firstLetter {c : Char} {k n : Nat} (in_time : k < n) {s : ρ}
    (first : FirstLetter c k s) : drawLetter n s = (c, afterWords (k + 1) s) := by
  induction k generalizing n s with
  | zero =>
    obtain ⟨m, rfl⟩ := Nat.exists_eq_succ_of_ne_zero (Nat.ne_of_gt in_time)
    rw [FirstLetter] at first
    rw [drawLetter]
    dsimp only
    rw [first]
    rfl
  | succ k ih =>
    obtain ⟨m, rfl⟩ := Nat.exists_eq_succ_of_ne_zero (Nat.ne_zero_of_lt in_time)
    obtain ⟨passed, later⟩ := first
    rw [drawLetter]
    dsimp only
    rw [passed]
    exact ih (Nat.lt_of_succ_lt_succ in_time) later

theorem isAlphanum_drawLetter (n : Nat) (s : ρ) : (drawLetter n s).1.isAlphanum = true := by
  induction n generalizing s with
  | zero =>
    show 'A'.isAlphanum = true
    decide
  | succ n ih =>
    rw [drawLetter]
    dsimp only
    cases letter : letter? (WordSource.next s).1 with
    | some c => exact isAlphanum_of_mem_alphabet c (List.mem_of_getElem? letter)
    | none => exact ih _

theorem drawLetters_spec (n : Nat) (s : ρ) :
    (drawLetters n s).1.length = n ∧ ∀ c ∈ (drawLetters n s).1, c.isAlphanum = true := by
  induction n generalizing s with
  | zero => exact ⟨rfl, fun _ h => absurd h List.not_mem_nil⟩
  | succ n ih =>
    have first := isAlphanum_drawLetter patience s
    obtain ⟨length, letters⟩ := ih (drawLetter patience s).2
    rw [drawLetters]
    dsimp only
    rw [List.length_cons, length, List.forall_mem_cons]
    exact ⟨rfl, first, letters⟩

/-- **Every draw is a path.** -/
theorem isPath_draw (s : ρ) : IsPath (SpiderSource.draw s).1 :=
  ⟨_, rfl, drawLetters_spec length s⟩

end Spider

namespace SpiderSource

variable {ρ : Type} [SpiderSource ρ]

/-- The state after a number of draws. -/
def after : Nat → ρ → ρ
  | 0, s => s
  | n + 1, s => after n (draw s).2

/-- The path of a draw, counted from zero. -/
def path (s : ρ) (n : Nat) : String := (draw (after n s)).1

end SpiderSource

namespace Link

/-! ## One rendering -/

/-- Do the links of an inbound carry a spider path?  They do with Reality, on every protocol but
shadowsocks. -/
def CarriesSpider (inbound : Inbound) : Prop :=
  inbound.protocol? ≠ some .shadowsocks ∧
    ∃ stream, Json.parse? inbound.streamSettings = some stream ∧
      stream.text? "security" = some "reality"

/-- The links of the first client with an e-mail; none if there is nothing to render. -/
def draftsFor (ctx : LinkContext) (inbound : Inbound) (email : String) (clients : List Client)
    (spx : String) : List Draft :=
  match inbound.protocol?, Json.parse? inbound.streamSettings, clients.find? (·.email = email) with
  | some protocol, some stream, some client => drafts ctx inbound protocol stream client spx
  | _, _, _ => []

/-- The text of several links. -/
def joined (ds : List Draft) : String := "\n".intercalate (ds.map Draft.text)

theorem drawsSpider_iff {stream : Json} {scope : SecurityScope} :
    Security.drawsSpider stream scope = true ↔
      scope = .full ∧ stream.text? "security" = some "reality" := by
  rw [Security.drawsSpider, Security.modeOf]
  cases stream.text? "security" with
  | none => simp
  | some tag =>
    by_cases tls : tag = "tls"
    · simp [tls]
    · by_cases reality : tag = "reality" <;> cases scope <;> simp [tls, reality]

theorem scope_eq_full_iff {protocol : Protocol} :
    scope protocol = .full ↔ protocol ≠ .shadowsocks := by
  cases protocol <;> simp [scope]

/-- What is random about links that carry a spider path: one path is drawn, every link shows it, and
apart from it the links are fixed. -/
structure OneDraw {ρ : Type} [SpiderSource ρ] (draftsAt : String → List Draft) (s : ρ)
    (out : String × ρ) : Prop where
  is_path : Spider.IsPath (SpiderSource.draw s).1
  /-- The source has moved on by one draw. -/
  one_draw : out.2 = (SpiderSource.draw s).2
  /-- The links are made with the path that was drawn. -/
  text : out.1 = joined (draftsAt (SpiderSource.draw s).1)
  /-- The path can be read off each of them. -/
  shown : ∀ d ∈ draftsAt (SpiderSource.draw s).1, d.spider? = some (SpiderSource.draw s).1
  /-- With another path in its place, they are the links that are made with that path. -/
  overwritten : ∀ path,
    (draftsAt (SpiderSource.draw s).1).map (Draft.withSpider path) = draftsAt path

section Generate

variable {ρ : Type} [SpiderSource ρ] (ctx : LinkContext) {inbound : Inbound} (email : String)
  (clients : List Client) (s : ρ)

/-- Links without a spider path leave the source alone. -/
theorem generate_of_not_carriesSpider (h : ¬ CarriesSpider inbound) :
    generate ctx inbound email clients s =
      (joined (draftsFor ctx inbound email clients ""), s) := by
  rw [generate, draftsFor]
  cases spoken : inbound.protocol? with
  | none => rfl
  | some protocol =>
    cases parsed : Json.parse? inbound.streamSettings with
    | none => rfl
    | some stream =>
      have undrawn : Security.drawsSpider stream (scope protocol) = false := by
        rw [Bool.eq_false_iff, Ne, drawsSpider_iff, scope_eq_full_iff]
        rintro ⟨other, reality⟩
        refine h ⟨?_, stream, parsed, reality⟩
        rwa [spoken, Ne, Option.some.injEq]
      cases clients.find? (·.email = email) with
      | none => rfl
      | some client => simp [drawSpider, undrawn, joined, lines_eq_drafts]

/-- Is there anything to render for an e-mail, on an inbound whose links carry a spider path? -/
def renders (inbound : Inbound) (clients : List Client) (email : String) : Bool :=
  inbound.protocol?.isSome && (clients.find? (·.email = email)).isSome

/-- Links with a spider path take one draw, if there are any. -/
theorem generate_of_carriesSpider (h : CarriesSpider inbound) :
    generate ctx inbound email clients s =
      if renders inbound clients email then
        (joined (draftsFor ctx inbound email clients (SpiderSource.draw s).1),
          (SpiderSource.draw s).2)
      else ("", s) := by
  obtain ⟨other, stream, parsed, reality⟩ := h
  rw [generate, draftsFor, renders, parsed]
  cases spoken : inbound.protocol? with
  | none => rfl
  | some protocol =>
    have drawn : Security.drawsSpider stream (scope protocol) = true := by
      rw [drawsSpider_iff, scope_eq_full_iff]
      refine ⟨?_, reality⟩
      rwa [spoken, Ne, Option.some.injEq] at other
    cases clients.find? (·.email = email) with
    | none => rfl
    | some client => simp [drawSpider, drawn, joined, lines_eq_drafts]

theorem draftsFor_of_not_renders (h : ¬ renders inbound clients email) (spx : String) :
    draftsFor ctx inbound email clients spx = [] := by
  rw [renders] at h
  rw [draftsFor]
  cases spoken : inbound.protocol? with
  | none => rfl
  | some protocol =>
    cases found : clients.find? (·.email = email) with
    | none => cases Json.parse? inbound.streamSettings <;> rfl
    | some client => simp [spoken, found] at h

/-- Where no path is carried, or nothing is rendered, the text is fixed and the source is left
alone. -/
theorem generate_of_fixed (fixed : ¬ CarriesSpider inbound ∨ ¬ renders inbound clients email) :
    generate ctx inbound email clients s =
      (joined (draftsFor ctx inbound email clients ""), s) := by
  by_cases carries : CarriesSpider inbound
  · have nothing := fixed.resolve_left (not_not.2 carries)
    rw [generate_of_carriesSpider ctx email clients s carries, if_neg nothing,
      draftsFor_of_not_renders ctx email clients nothing]
    rfl
  · exact generate_of_not_carriesSpider ctx email clients s carries

/-- The links of an inbound that carry a spider path are those of a protocol with Reality. -/
theorem draftsFor_of_carriesSpider (h : CarriesSpider inbound)
    (there : renders inbound clients email) : ∃ protocol stream client, protocol ≠ .shadowsocks ∧
      Json.parse? inbound.streamSettings = some stream ∧
      Security.modeOf stream .full = .reality ∧
      ∀ spx, draftsFor ctx inbound email clients spx =
        drafts ctx inbound protocol stream client spx := by
  obtain ⟨other, stream, parsed, reality⟩ := h
  rw [renders, Bool.and_eq_true, Option.isSome_iff_exists, Option.isSome_iff_exists] at there
  obtain ⟨⟨protocol, spoken⟩, client, found⟩ := there
  have mode : Security.drawsSpider stream .full = true := drawsSpider_iff.2 ⟨rfl, reality⟩
  refine ⟨protocol, stream, client, ?_, parsed, of_decide_eq_true mode, fun spx => ?_⟩
  · rwa [spoken, Ne, Option.some.injEq] at other
  · rw [draftsFor, spoken, parsed, found]

/-- **Links with a spider path are one function of it.** -/
theorem draftsFor_withSpider (h : CarriesSpider inbound) (spx path : String) :
    (draftsFor ctx inbound email clients spx).map (Draft.withSpider path) =
      draftsFor ctx inbound email clients path := by
  by_cases there : renders inbound clients email
  · obtain ⟨protocol, stream, client, other, -, mode, drafts_eq⟩ :=
      draftsFor_of_carriesSpider ctx email clients h there
    rw [drafts_eq, drafts_eq]
    exact drafts_withSpider mode other ctx inbound client spx path
  · rw [draftsFor_of_not_renders ctx email clients there,
      draftsFor_of_not_renders ctx email clients there, List.map_nil]

theorem joined_ne_empty {ds : List Draft} (h : ds ≠ []) : joined ds ≠ "" := by
  have texts : ∀ l ∈ ds.map Draft.text, l ≠ "" :=
    List.forall_mem_map.2 fun d _ => d.text_ne_empty
  rw [joined, Ne, joined_eq_empty_iff texts, List.map_eq_nil_iff]
  exact h

theorem generate_ne_empty_iff (h : CarriesSpider inbound) :
    (generate ctx inbound email clients s).1 ≠ "" ↔ renders inbound clients email := by
  rw [generate_of_carriesSpider ctx email clients s h]
  by_cases there : renders inbound clients email
  · obtain ⟨protocol, stream, client, other, -, -, drafts_eq⟩ :=
      draftsFor_of_carriesSpider ctx email clients h there
    have some_link : drafts ctx inbound protocol stream client (SpiderSource.draw s).1 ≠ [] := by
      rw [← List.length_pos_iff, length_drafts other]
      omega
    rw [if_pos there, drafts_eq]
    exact iff_of_true (joined_ne_empty some_link) there
  · rw [if_neg there]
    exact iff_of_false (fun h => h rfl) there

end Generate

/-! ## Texts apart from their spider paths

A text alone does not say where its spider path is, so texts are compared as texts of links. -/

/-- Texts of links that differ in their spider paths at most. -/
def SameButSpider (l l' : String) : Prop :=
  ∃ ds ds', l = joined ds ∧ l' = joined ds' ∧
    ∀ path, ds.map (Draft.withSpider path) = ds'.map (Draft.withSpider path)

section TwoSources

variable {ρ σ : Type} [SpiderSource ρ] [SpiderSource σ] (ctx : LinkContext) (inbound : Inbound)
  (clients : List Client)

/-- **From any two sources, an e-mail is rendered alike but for the spider path**, and rendered from
both or from none. -/
theorem sameButSpider_generate (email : String) (s : ρ) (s' : σ) :
    SameButSpider (generate ctx inbound email clients s).1
        (generate ctx inbound email clients s').1 ∧
      ((generate ctx inbound email clients s).1 = "" ↔
        (generate ctx inbound email clients s').1 = "") := by
  by_cases carries : CarriesSpider inbound
  · refine ⟨?_, not_iff_not.1 ((generate_ne_empty_iff ctx email clients s carries).trans
      (generate_ne_empty_iff ctx email clients s' carries).symm)⟩
    rw [generate_of_carriesSpider ctx email clients s carries,
      generate_of_carriesSpider ctx email clients s' carries]
    split
    · refine ⟨_, _, rfl, rfl, fun path => ?_⟩
      rw [draftsFor_withSpider ctx email clients carries,
        draftsFor_withSpider ctx email clients carries]
    · exact ⟨[], [], rfl, rfl, fun _ => rfl⟩
  · rw [generate_of_not_carriesSpider ctx email clients s carries,
      generate_of_not_carriesSpider ctx email clients s' carries]
    exact ⟨⟨_, _, rfl, rfl, fun _ => rfl⟩, Iff.rfl⟩

/-- From any two sources, a list of e-mails gives the same links but for their spider paths. -/
theorem sameButSpider_generateAll (emails : List String) (s : ρ) (s' : σ) :
    List.Forall₂ SameButSpider ((generateAll ctx inbound clients emails s).1.filter (· ≠ ""))
      ((generateAll ctx inbound clients emails s').1.filter (· ≠ "")) := by
  induction emails generalizing s s' with
  | nil => exact .nil
  | cons email emails ih =>
    obtain ⟨same, empty⟩ := sameButSpider_generate ctx inbound clients email s s'
    have later := ih (generate ctx inbound email clients s).2
      (generate ctx inbound email clients s').2
    rw [generateAll, generateAll, List.filter_cons, List.filter_cons]
    by_cases nothing : (generate ctx inbound email clients s).1 = ""
    · have nothing' := empty.1 nothing
      simpa [nothing, nothing'] using later
    · have something : ¬ (generate ctx inbound email clients s').1 = "" :=
        fun nothing' => nothing (empty.2 nothing')
      simpa [nothing, something] using And.intro same later

end TwoSources

/-! ## Renderings compared -/

section Compare

variable {ρ : Type} [WordSource ρ] (ctx : LinkContext) {inbound : Inbound} {email : String}
  {clients : List Client}

theorem oneDraw_generate (h : CarriesSpider inbound) (there : renders inbound clients email)
    (s : ρ) :
    OneDraw (draftsFor ctx inbound email clients) s (generate ctx inbound email clients s) := by
  obtain ⟨protocol, stream, client, other, -, mode, drafts_eq⟩ :=
    draftsFor_of_carriesSpider ctx email clients h there
  have out := generate_of_carriesSpider ctx email clients s h
  rw [if_pos there] at out
  exact {
    is_path := Spider.isPath_draw s
    one_draw := by rw [out]
    text := by rw [out]
    shown := by
      rw [drafts_eq]
      exact fun d hd => spider?_of_mem_drafts mode other ctx inbound client _ hd
    overwritten := draftsFor_withSpider ctx email clients h _ }

/-- The e-mails of a list are rendered with one draw each, in turn. -/
theorem generateAll_of_carriesSpider (h : CarriesSpider inbound) (emails : List String) (s : ρ) :
    generateAll ctx inbound clients emails s =
      (emails.mapIdx fun i email => joined (draftsFor ctx inbound email clients
          (SpiderSource.path s ((emails.take i).countP (renders inbound clients)))),
        SpiderSource.after (emails.countP (renders inbound clients)) s) := by
  induction emails generalizing s with
  | nil => rfl
  | cons email emails ih =>
    have first := generate_of_carriesSpider ctx email clients s h
    rw [generateAll, List.mapIdx_cons]
    by_cases there : renders inbound clients email
    · rw [if_pos there] at first
      rw [first]
      dsimp only
      rw [ih]
      simp only [List.take_zero, List.countP_nil, List.take_succ_cons, List.countP_cons, there,
        if_true, SpiderSource.after, SpiderSource.path]
    · rw [if_neg there] at first
      rw [first]
      dsimp only
      rw [ih, draftsFor_of_not_renders ctx email clients there]
      simp [there, joined]

end Compare

/-- **Randomness reaches a link through its spider path, and in no other way.**  Two renderings from
any two states of the source are alike, and leave the states alone, if the inbound's links carry no
spider path or nothing is rendered.  Otherwise each takes one path, whatever the number of external
proxies; all links show it, and overwriting it gives the same links in both.  E-mails that are
rendered in turn take the paths in turn.

The sources meant are those whose draws end, as in `Spider.drawLetter_of_firstLetter`: among
`Spider.patience` words in a row there is one that stands for a letter.  From any other source a
path would be drawn forever, and the letter that stands in for it here says nothing. -/
theorem randomness_is_spider {ρ σ : Type} [WordSource ρ] [WordSource σ] (ctx : LinkContext)
    (inbound : Inbound) (clients : List Client) :
    (∀ (email : String) (s : ρ) (s' : σ),
      let out := generate ctx inbound email clients s
      let out' := generate ctx inbound email clients s'
      (¬ CarriesSpider inbound ∨ out.1 = "" → out.1 = out'.1 ∧ out.2 = s ∧ out'.2 = s') ∧
        (CarriesSpider inbound ∧ out.1 ≠ "" →
          let links := draftsFor ctx inbound email clients
          OneDraw links s out ∧ OneDraw links s' out' ∧
            ∀ stream path, Json.parse? inbound.streamSettings = some stream →
              (links path).length = max 1 (ExternalProxy.listOfStream stream).length)) ∧
      ∀ (emails : List String) (s : ρ), CarriesSpider inbound →
        let rendered (email : String) : Bool := (generate ctx inbound email clients s).1 ≠ ""
        generateAll ctx inbound clients emails s =
          (emails.mapIdx fun i email => joined (draftsFor ctx inbound email clients
              (SpiderSource.path s ((emails.take i).countP rendered))),
            SpiderSource.after (emails.countP rendered) s) := by
  refine ⟨fun email s s' => ⟨fun fixed => ?_, fun ⟨carries, some_link⟩ => ?_⟩,
    fun emails s carries => ?_⟩
  · have fixed : ¬ CarriesSpider inbound ∨ ¬ renders inbound clients email := by
      by_cases carries : CarriesSpider inbound
      · rw [← generate_ne_empty_iff ctx email clients s carries, not_not]
        exact fixed
      · exact .inl carries
    rw [generate_of_fixed ctx email clients s fixed, generate_of_fixed ctx email clients s' fixed]
    exact ⟨rfl, rfl, rfl⟩
  · have there := (generate_ne_empty_iff ctx email clients s carries).1 some_link
    refine ⟨oneDraw_generate ctx carries there s, oneDraw_generate ctx carries there s', ?_⟩
    obtain ⟨protocol, stream, client, other, parsed, -, drafts_eq⟩ :=
      draftsFor_of_carriesSpider ctx email clients carries there
    intro stream' path parsed'
    obtain rfl := Option.some.inj (parsed.symm.trans parsed')
    rw [drafts_eq, length_drafts other]
  · have same : (fun email => decide ((generate ctx inbound email clients s).1 ≠ "")) =
        renders inbound clients := by
      funext email
      simp only [generate_ne_empty_iff ctx email clients s carries, Bool.decide_eq_true]
    intro rendered
    rw [show rendered = renders inbound clients from same]
    exact generateAll_of_carriesSpider ctx carries emails s

/-- The e-mails of a client behind two relays, twice, and of nobody in between. -/
def twiceKim : List String := ["kim@home", "nobody", "kim@home"]

/-- Two letters in turn. -/
def turns : CyclicWords := .ofList [0, 67108864]

/-- The links of a client behind two relays show one path, and are fixed apart from it; rendered
again from the same source, they show the next path.  The link of a shadowsocks client is fixed. -/
theorem randomness_is_spider_kim :
    ((generate relayedContext relayed "kim@home" [relayedClient] turns).1 =
        (generate relayedContext relayed "kim@home" [relayedClient] (CyclicWords.ofList [])).1 ∧
      (generate relayedContext relayed "kim@home" [relayedClient] turns).2 = turns) ∧
    (let links := draftsFor relayedContext (vmessWith frontedMembers) "kim@home" [relayedClient];
      OneDraw links turns (generate relayedContext (vmessWith frontedMembers) "kim@home"
        [relayedClient] turns) ∧
      (∀ path, (links path).length = 2) ∧
      (generateAll relayedContext (vmessWith frontedMembers) [relayedClient] twiceKim turns).1 =
        [joined (links "/ABABABABABABABA"), "", joined (links "/BABABABABABABAB")]) := by
  have fixed : ¬ CarriesSpider relayed := fun carries => carries.1 (by decide)
  have carries : CarriesSpider (vmessWith frontedMembers) :=
    ⟨by decide, _, parse?_frontedMembers, by decide⟩
  have rendered (email : String) :
      (generate relayedContext (vmessWith frontedMembers) email [relayedClient] turns).1 ≠ "" ↔
        email = "kim@home" := by
    rw [generate_ne_empty_iff _ _ _ _ carries]
    have spoken : (vmessWith frontedMembers).protocol?.isSome := by decide
    simp [renders, spoken, relayedClient, @eq_comm String email]
  have proxies : (ExternalProxy.listOfStream (.obj frontedMembers)).length = 2 := by decide +kernel
  have ss := ((randomness_is_spider relayedContext relayed [relayedClient]).1 "kim@home" turns
    (CyclicWords.ofList [])).1 (.inl fixed)
  have vmess := @randomness_is_spider CyclicWords CyclicWords _ _ relayedContext
    (vmessWith frontedMembers) [relayedClient]
  obtain ⟨one, -, length⟩ := (vmess.1 "kim@home" turns turns).2
    ⟨carries, (rendered "kim@home").2 rfl⟩
  refine ⟨⟨ss.1, ss.2.1⟩, one, fun path => ?_, ?_⟩
  · rw [length _ path parse?_frontedMembers, proxies]
    rfl
  · rw [vmess.2 twiceKim turns carries]
    have first : SpiderSource.path turns 0 = "/ABABABABABABABA" := by decide +kernel
    have second : SpiderSource.path turns 1 = "/BABABABABABABAB" := by decide +kernel
    have nobody : ¬ renders (vmessWith frontedMembers) [relayedClient] "nobody" := by decide
    simp [twiceKim, rendered, first, second, joined,
      draftsFor_of_not_renders relayedContext "nobody" [relayedClient] nobody]

end Link
end ProxyFeed
