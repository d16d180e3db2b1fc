import ProxyFeed.Proofs.Fallback.Resolve
import ProxyFeed.Proofs.Json.Parsed
import ProxyFeed.Proofs.Link.Layers

/-!
# What a fallback inherits

A fallback is reached through its master, so a link for it has to pass the master's security layer
and then speak the fallback's own transport.  The two stream texts are merged accordingly: three
members are the master's, or are missing as they are missing there, and all others are the
fallback's.

The three members hold a TLS layer entirely.  Of a Reality layer they hold the name alone: its
fields stand in a member that is not among the three, and are read from the fallback's own settings.

## What is here

* `Fallback.get?_inherit` — whose member stands under a key.
* `Fallback.Legible` — merged members that can be read back; `Fallback.legible_inherit` says that
  this only ever fails where the key reserved for embedded documents is used.
* `Security.drawn` — security fields as they are read, with the spider path they take.
* `Fallback.Inherited` — what is whose after merging.
* `Fallback.merge_inherits` — merging does just that.
-/

set_option autoImplicit false
namespace ProxyFeed
namespace Fallback

/-! ## Whose member stands under a key -/

section Lookup

variable {ms : Members} (apart : ms.keys.Nodup) (master : Json)

include apart

theorem nodup_keys_inheritKey (key : String) : (inheritKey master ms key).keys.Nodup := by
  rw [inheritKey]
  split
  · exact Members.nodup_keys_set apart key _
  · exact Members.nodup_keys_erase apart key

theorem get?_inheritKey (key k : String) :
    (inheritKey master ms key).get? k = if k = key then master.get? key else ms.get? k := by
  rw [inheritKey]
  split
  · next v found => rw [Members.get?_set, found]
  · next missing => rw [Members.get?_erase apart, missing]

omit apart in
/-- Taking several keys, one after the other. -/
theorem get?_foldl_inheritKey (keys : List String) {ms : Members} (apart : ms.keys.Nodup) :
    (keys.foldl (inheritKey master) ms).keys.Nodup ∧
      ∀ k, (keys.foldl (inheritKey master) ms).get? k =
        if k ∈ keys then master.get? k else ms.get? k := by
  induction keys generalizing ms with
  | nil => exact ⟨apart, fun k => by rw [if_neg List.not_mem_nil]; rfl⟩
  | cons key keys ih =>
    obtain ⟨nodup, lookup⟩ := ih (nodup_keys_inheritKey apart master key)
    refine ⟨nodup, fun k => ?_⟩
    rw [List.foldl_cons, lookup, get?_inheritKey apart]
    by_cases later : k ∈ keys
    · rw [if_pos later, if_pos (List.mem_cons_of_mem key later)]
    · by_cases now : k = key
      · rw [if_neg later, if_pos now, if_pos (List.mem_cons.2 (.inl now)), now]
      · rw [if_neg later, if_neg now, if_neg fun h => (List.mem_cons.1 h).elim now later]

theorem nodup_keys_inherit : (inherit ms master).keys.Nodup :=
  (get?_foldl_inheritKey master inheritedKeys apart).1

/-- **An inherited key is the master's, every other key is the fallback's.** -/
theorem get?_inherit (k : String) :
    (inherit ms master).get? k = if k ∈ inheritedKeys then master.get? k else ms.get? k :=
  (get?_foldl_inheritKey master inheritedKeys apart).2 k

/-- Every member comes from one of the two. -/
theorem mem_or_get?_of_mem_inherit {m : String × Json} (h : m ∈ inherit ms master) :
    m ∈ ms ∨ m.1 ∈ inheritedKeys ∧ master.get? m.1 = some m.2 := by
  have found := (Members.get?_eq_some_iff (nodup_keys_inherit apart master)).2 h
  rw [get?_inherit apart] at found
  split at found
  · next key => exact .inr ⟨key, found⟩
  · exact .inl (Members.mem_of_get? found)

end Lookup

/-! ## Reading merged members back -/

/-- Members that are read back from their text: they do not begin with the reserved key, and their
brackets do not nest too deep. -/
structure Legible (ms : Members) : Prop where
  unembedded : ms.keys.head? ≠ some RawJson.embeddedKey
  shallow : (Json.obj ms).depth ≤ RawJson.nestingLimit

section Values

variable {ms : Members} {master : Json}

/-- What holds of the members of both holds of the merged members. -/
theorem forall_mem_inherit {p : Json → Prop} (apart : ms.keys.Nodup) (own : ∀ m ∈ ms, p m.2)
    (inherited : ∀ key v, master.get? key = some v → p v) : ∀ m ∈ inherit ms master, p m.2 := by
  intro m hm
  rcases mem_or_get?_of_mem_inherit apart master hm with here | ⟨-, found⟩
  · exact own m here
  · exact inherited m.1 m.2 found

theorem everyObject_inherit {p : Members → Prop} (apart : ms.keys.Nodup)
    (own : (Json.obj ms).EveryObject p) (inherited : master.EveryObject p)
    (merged : p (inherit ms master)) : (Json.obj (inherit ms master)).EveryObject p :=
  ⟨merged, Json.everyObjectMembers_iff.2 (forall_mem_inherit apart
    (Json.everyObjectMembers_iff.1 own.2) fun _ _ found => inherited.of_get? found)⟩

theorem integral_inherit (apart : ms.keys.Nodup) (own : (Json.obj ms).Integral)
    (inherited : master.Integral) : (Json.obj (inherit ms master)).Integral :=
  Json.integralMembers_iff.2 (forall_mem_inherit apart (Json.integralMembers_iff.1 own)
    fun _ _ found => inherited.of_get? found)

variable {stream masterStream : String} (parsed : Json.parse? stream = some (.obj ms))
  (parsed_master : Json.parse? masterStream = some master)

include parsed parsed_master

/-- **Legible members are read back from the merged text.** -/
theorem parse?_merged (integral : (Json.obj ms).Integral) (integral_master : master.Integral)
    (legible : Legible (inherit ms master)) :
    Json.parse? (Json.obj (inherit ms master)).compact = some (.obj (inherit ms master)) := by
  have distinct := Json.distinct_of_parse? parsed
  have apart : ms.keys.Nodup := distinct.1
  refine Json.parse?_compact (integral_inherit apart integral integral_master) ?_ ?_ legible.shallow
  · exact everyObject_inherit apart distinct (Json.distinct_of_parse? parsed_master)
      (nodup_keys_inherit apart master)
  · exact everyObject_inherit apart (Json.unembedded_of_parse? parsed)
      (Json.unembedded_of_parse? parsed_master) legible.unembedded

theorem merge_eq_ok :
    merge stream masterStream = .ok (Json.obj (inherit ms master)).compact :=
  merge_eq_ok_iff.2 ⟨ms, master, parsed, parsed_master, rfl⟩

omit parsed_master in
/-- The reserved key is not inherited. -/
theorem not_mem_keys_inherit
    (plain : ∀ tree, RawJson.parse? stream = some tree → tree.Unreserved) :
    RawJson.embeddedKey ∉ (inherit ms master).keys := by
  obtain ⟨tree, of_text, read⟩ := Option.bind_eq_some_iff.1 parsed
  intro there
  obtain ⟨m, hm, reserved⟩ := List.mem_map.1 there
  have apart : ms.keys.Nodup := (Json.distinct_of_parse? parsed).1
  rcases mem_or_get?_of_mem_inherit apart master hm with here | ⟨key, -⟩
  · have own : RawJson.embeddedKey ∈ ms.keys :=
      reserved ▸ List.mem_map_of_mem (f := Prod.fst) here
    exact (plain tree of_text).not_mem_keys read own
  · exact absurd (reserved ▸ key) (by decide)

/-- **Merged members are legible unless a text uses the reserved key.** -/
theorem legible_inherit (plain : ∀ tree, RawJson.parse? stream = some tree → tree.Unreserved)
    (plain_master : ∀ tree, RawJson.parse? masterStream = some tree → tree.Unreserved) :
    Legible (inherit ms master) := by
  have apart : ms.keys.Nodup := (Json.distinct_of_parse? parsed).1
  obtain ⟨tree, of_text, read⟩ := Option.bind_eq_some_iff.1 parsed
  obtain ⟨tree', of_text', read'⟩ := Option.bind_eq_some_iff.1 parsed_master
  have free := plain tree of_text
  have free' := plain_master tree' of_text'
  constructor
  · intro first
    exact not_mem_keys_inherit parsed plain (List.mem_of_head? first)
  · refine Nat.succ_le_succ (Json.depthOfMembers_le_iff.2 ?_)
    refine forall_mem_inherit (p := fun v => v.depth ≤ 126) apart ?_ fun key v inherited => ?_
    · exact Json.depthOfMembers_le_iff.1 (Nat.le_of_succ_le_succ (free.depth_le read))
    · exact Nat.le_of_lt_succ
        (Nat.lt_of_lt_of_le (Json.depth_lt_of_get? inherited) (free'.depth_le read'))

end Values

end Fallback

/-! ## What the layers read -/

namespace Security

/-- The security fields in stream settings, with a spider path from a source if there is a use for
one, and what is left of the source. -/
def drawn {ρ : Type} [SpiderSource ρ] (stream : Json) (scope : SecurityScope) (source : ρ) :
    Security × ρ :=
  (ofStream stream scope (Link.drawSpider stream scope source).1,
    (Link.drawSpider stream scope source).2)

/-- The fields of a Reality layer in stream settings, before a spider path is drawn. -/
def realityFields (stream : Json) : Security :=
  ((stream.get? "realitySettings").map ofReality).getD { mode := .reality }

variable {ρ : Type} [SpiderSource ρ] {stream : Json} {scope : SecurityScope}

theorem drawn_of_reality (reality : modeOf stream scope = .reality) (source : ρ) :
    drawn stream scope source =
      ({ realityFields stream with spx := some (SpiderSource.draw source).1 },
        (SpiderSource.draw source).2) := by
  have draws : drawsSpider stream scope = true := decide_eq_true reality
  rw [drawn, Link.drawSpider, if_pos draws, ofStream, reality]
  rfl

theorem drawn_of_not_reality (other : modeOf stream scope ≠ .reality) (source : ρ) :
    drawn stream scope source = (ofStream stream scope "", source) := by
  have idle : ¬drawsSpider stream scope = true := fun draws => other (of_decide_eq_true draws)
  rw [drawn, Link.drawSpider, if_neg idle]

end Security

namespace Fallback

/-- What of merged settings is the master's, and what the fallback's.  External proxies and the
name of the security layer are the master's, and so are its fields, except under Reality. -/
structure Inherited (own master merged : Json) : Prop where
  proxies : ExternalProxy.listOfStream merged = ExternalProxy.listOfStream master
  network : Network.ofStream merged = Network.ofStream own
  transport : ∀ network, Transport.ofStream merged network = Transport.ofStream own network
  mode : ∀ scope, Security.modeOf merged scope = Security.modeOf master scope
  security : ∀ {ρ : Type} [SpiderSource ρ] (scope : SecurityScope) (source : ρ),
    Security.modeOf master scope ≠ .reality →
      Security.drawn merged scope source = Security.drawn master scope source
  /-- The fields of a Reality layer are read from the fallback's own settings. -/
  reality : ∀ {ρ : Type} [SpiderSource ρ] (scope : SecurityScope) (source : ρ),
    Security.modeOf master scope = .reality →
      Security.drawn merged scope source =
        ({ Security.realityFields own with spx := some (SpiderSource.draw source).1 },
          (SpiderSource.draw source).2)

section Inherited

variable {own master merged : Json}
  (taken : ∀ key ∈ inheritedKeys, merged.get? key = master.get? key)
  (kept : ∀ key ∉ inheritedKeys, merged.get? key = own.get? key)

include taken kept

/-- **The inherited keys decide what is whose.** -/
theorem inherited_of_get? : Inherited own master merged := by
  have mode (scope : SecurityScope) :
      Security.modeOf merged scope = Security.modeOf master scope :=
    Security.modeOf_congr (taken "security" (by decide)) scope
  refine ⟨?_, ?_, fun network => ?_, mode, fun scope source other => ?_,
    fun scope source reality => ?_⟩
  · rw [ExternalProxy.listOfStream, ExternalProxy.listOfStream, taken "externalProxy" (by decide)]
  · exact Network.ofStream_congr (kept "network" (by decide))
  · refine Transport.ofStream_congr network fun key block => kept key ?_
    cases network with
    | other tag => cases block
    | tcp | kcp | ws | grpc | httpUpgrade | xhttp =>
      obtain rfl := Option.some.inj block
      decide
  · rw [Security.drawn_of_not_reality ((mode scope).trans_ne other),
      Security.drawn_of_not_reality other, Security.ofStream, Security.ofStream, mode scope]
    cases layer : Security.modeOf master scope with
    | none => rfl
    | tls =>
      dsimp only
      rw [taken "tlsSettings" (by decide)]
    | reality => exact absurd layer other
  · rw [Security.drawn_of_reality ((mode scope).trans reality), Security.realityFields,
      Security.realityFields, kept "realitySettings" (by decide)]

end Inherited

/-- **A fallback takes its master's security layer and external proxies, and keeps its transport.**
The merged text is read back as the merged members.  What is read from them is the master's or the
fallback's own; of a Reality layer, only the name is the master's. -/
theorem merge_inherits {stream masterStream : String} {ms : Members} {master : Json}
    (parsed : Json.parse? stream = some (.obj ms))
    (parsed_master : Json.parse? masterStream = some master)
    (integral : (Json.obj ms).Integral) (integral_master : master.Integral)
    (legible : Legible (inherit ms master)) :
    ∃ text merged, merge stream masterStream = .ok text ∧ Json.parse? text = some merged ∧
      Inherited (.obj ms) master merged := by
  have apart : ms.keys.Nodup := (Json.distinct_of_parse? parsed).1
  refine ⟨_, _, merge_eq_ok parsed parsed_master,
    parse?_merged parsed parsed_master integral integral_master legible, ?_⟩
  refine inherited_of_get? (fun key inherited => ?_) fun key other => ?_
  · rw [Json.get?, get?_inherit apart, if_pos inherited]
  · rw [Json.get?, get?_inherit apart, if_neg other]
    rfl

/-! ## A master with TLS, and one with Reality -/

/-- Stream settings of a fallback. -/
def fallbackMembers : Members :=
  [("security", .str "none"), ("network", .str "ws"),
    ("wsSettings", .obj [("path", .str "/fb")])]

/-- Stream settings of a master behind a relay. -/
def tlsMaster : Members :=
  [("network", .str "tcp"), ("security", .str "tls"),
    ("tlsSettings", .obj [("serverName", .str "m.example")]),
    ("externalProxy", .arr [.obj [("dest", .str "a.example"), ("port", .ofInt 8443)]])]

/-- Stream settings of a master with a Reality layer. -/
def realityMaster : Members :=
  [("network", .str "tcp"), ("security", .str "reality"),
    ("realitySettings", .obj [("serverNames", .arr [.str "r.example"])])]

/-- Behind the first master, the fallback shows its server name and its own path. -/
theorem merge_inherits_tls : ∃ text merged,
    merge (Json.obj fallbackMembers).pretty (Json.obj tlsMaster).pretty = .ok text ∧
      Json.parse? text = some merged ∧
      ExternalProxy.listOfStream merged = [⟨"", "a.example", 8443, ""⟩] ∧
      (Transport.ofStream merged .ws).path = some "/fb" ∧
      (Security.drawn merged .full (CyclicWords.ofList [0])).1.sni = some "m.example" := by
  have parsed : Json.parse? (Json.obj fallbackMembers).pretty = some (.obj fallbackMembers) :=
    Json.parse?_pretty (by decide) (by decide) (by decide) (by decide)
  have parsed_master : Json.parse? (Json.obj tlsMaster).pretty = some (.obj tlsMaster) :=
    Json.parse?_pretty (by decide) (by decide) (by decide) (by decide)
  obtain ⟨text, merged, made, read, inherited⟩ := merge_inherits parsed parsed_master (by decide)
    (by decide) ⟨by decide, by decide⟩
  refine ⟨text, merged, made, read, ?_, ?_, ?_⟩
  · rw [inherited.proxies]
    decide +kernel
  · rw [inherited.transport]
    decide
  · rw [inherited.security .full _ (by decide)]
    rfl

/-- Stream settings whose second member is taken for an embedded document as soon as it comes
first. -/
def reservedMembers : Members := [("security", .str "none"), (RawJson.embeddedKey, .str "x")]

/-- **The server name of a Reality master is lost**, and a fallback that uses the reserved key may
end up with settings that cannot be read. -/
theorem merge_loses_reality :
    (∃ text merged,
      merge (Json.obj fallbackMembers).pretty (Json.obj realityMaster).pretty = .ok text ∧
        Json.parse? text = some merged ∧
        ∀ spx, (Security.ofStream merged .full spx).sni = none ∧
          (Security.ofStream (.obj realityMaster) .full spx).sni = some "r.example") ∧
    Json.parse? (Json.obj reservedMembers).pretty = some (.obj reservedMembers) ∧
      ∃ text, merge (Json.obj reservedMembers).pretty (Json.obj []).pretty = .ok text ∧
        Json.parse? text = none := by
  have parsed : Json.parse? (Json.obj fallbackMembers).pretty = some (.obj fallbackMembers) :=
    Json.parse?_pretty (by decide) (by decide) (by decide) (by decide)
  have parsed_master : Json.parse? (Json.obj realityMaster).pretty = some (.obj realityMaster) :=
    Json.parse?_pretty (by decide) (by decide) (by decide) (by decide)
  have parsed_reserved : Json.parse? (Json.obj reservedMembers).pretty =
      some (.obj reservedMembers) :=
    Json.parse?_pretty (by decide) (by decide) (by decide) (by decide)
  have parsed_empty : Json.parse? (Json.obj []).pretty = some (.obj []) :=
    Json.parse?_pretty (by decide) (by decide) (by decide) (by decide)
  refine ⟨⟨_, _, merge_eq_ok parsed parsed_master,
    parse?_merged parsed parsed_master (by decide) (by decide) ⟨by decide, by decide⟩,
    fun spx => ⟨rfl, rfl⟩⟩, parsed_reserved, _, merge_eq_ok parsed_reserved parsed_empty, ?_⟩
  have merged : inherit reservedMembers (.obj []) = [(RawJson.embeddedKey, .str "x")] := by rfl
  have not_json (depth : Nat) : RawJson.document? depth "x" = none := by
    cases depth with
    | zero => rfl
    | succ depth =>
      have no_tree : RawJson.parse? "x" = none := by decide
      rw [RawJson.document?, no_tree, Option.bind_none]
  rw [merged, Json.parse?, RawJson.document?, RawJson.parse?_compact (by decide), Option.bind_some]
  exact (RawJson.value?_embedded _ 126 "x").trans (not_json _)

end Fallback
end ProxyFeed
