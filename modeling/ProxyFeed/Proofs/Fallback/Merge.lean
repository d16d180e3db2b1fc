import ProxyFeed.Proofs.Fallback.Inherit

/-!
# The laws of merging

A merged text is kept, and may be merged again: with the same master when nothing has changed, or
with another one.  The first must change nothing at all, not even the order of the members, for the
text ends up in a fingerprint.  The second must leave no trace of the first master.

Both follow from one description of merged members as a map: the inherited keys are the master's,
and all other keys are the fallback's.  What carries them over from members to texts is that a
merged text is read back as its members.  This holds unless the reserved key comes first, and it may
come first where it did not before, since a removed member is replaced by the last one.

## What is here

* `Fallback.Mixed` — members that are the master's under the inherited keys and the fallback's
  elsewhere; `Fallback.Mixed.perm` says that this leaves only their order open.
* `Fallback.Mixed.inherit_eq_self` and `Fallback.Mixed.trans` — the two laws on members.
* `Fallback.legible_iff` — which merged texts are read back; `Fallback.Legible.of_perm` says that
  without the reserved key their order does not matter for that.
* `Fallback.merge_laws` — the laws on texts.
* `Fallback.merge_not_repeatable` — a text for which they fail.
-/

set_option autoImplicit false
namespace ProxyFeed

namespace Fallback

/-! ## Merged members -/

/-- Members that are the master's under the inherited keys, and a fallback's own under all others;
what the master lacks is missing. -/
structure Mixed (own : Members) (master : Json) (ms : Members) : Prop where
  apart : ms.keys.Nodup
  taken : ∀ key ∈ inheritedKeys, ms.get? key = master.get? key
  kept : ∀ key ∉ inheritedKeys, ms.get? key = own.get? key

theorem mixed_inherit {own : Members} (apart : own.keys.Nodup) (master : Json) :
    Mixed own master (inherit own master) where
  apart := nodup_keys_inherit apart master
  taken key inherited := by rw [get?_inherit apart, if_pos inherited]
  kept key other := by rw [get?_inherit apart, if_neg other]

namespace Mixed

variable {own ms ms' : Members} {master master' : Json}

/-- **The description determines the members**, except for their order. -/
theorem perm (h : Mixed own master ms) (h' : Mixed own master ms') : ms.Perm ms' := by
  refine Members.perm_of_get? h.apart h'.apart fun key => ?_
  by_cases inherited : key ∈ inheritedKeys
  · rw [h.taken key inherited, h'.taken key inherited]
  · rw [h.kept key inherited, h'.kept key inherited]

/-- **The last master wins**: what the first one gave is replaced, and what was there before it is
left alone. -/
theorem trans (h : Mixed own master ms) (h' : Mixed ms master' ms') : Mixed own master' ms' where
  apart := h'.apart
  taken := h'.taken
  kept key other := (h'.kept key other).trans (h.kept key other)

/-- Taking a key again changes nothing. -/
theorem inheritKey_eq_self (h : Mixed own master ms) {key : String}
    (inherited : key ∈ inheritedKeys) : inheritKey master ms key = ms := by
  have there := h.taken key inherited
  rw [inheritKey]
  split
  · next v found => exact Members.set_eq_self h.apart (there.trans found)
  · next missing => exact Members.erase_eq_self (there.trans missing)

/-- **Inheriting again from the same master changes nothing**, the order of members included. -/
theorem inherit_eq_self (h : Mixed own master ms) : inherit ms master = ms := by
  suffices run : ∀ keys : List String, (∀ key ∈ keys, key ∈ inheritedKeys) →
      keys.foldl (inheritKey master) ms = ms from run inheritedKeys fun _ => id
  intro keys
  induction keys with
  | nil => exact fun _ => rfl
  | cons key keys ih =>
    intro inherited
    obtain ⟨first, rest⟩ := List.forall_mem_cons.1 inherited
    rw [List.foldl_cons, h.inheritKey_eq_self first, ih rest]

end Mixed

/-! ## Merged texts -/

/-- A text as it is after merging: the text of merged members, which are read back from it exactly
if they do not begin with the reserved key and do not nest too deep. -/
structure MergedText (own : Members) (master : Json) (ms : Members) (text : String) : Prop where
  written : text = (Json.obj ms).compact
  mixed : Mixed own master ms
  read_iff : Json.parse? text = some (.obj ms) ↔ Legible ms

section Texts

variable {stream masterStream : String} {ms : Members} {master : Json}
  (parsed : Json.parse? stream = some (.obj ms))
  (parsed_master : Json.parse? masterStream = some master)
  (integral : (Json.obj ms).Integral) (integral_master : master.Integral)

include parsed parsed_master integral integral_master

/-- Merged members are read back from their text exactly if they are legible. -/
theorem legible_iff :
    Json.parse? (Json.obj (inherit ms master)).compact = some (.obj (inherit ms master)) ↔
      Legible (inherit ms master) := by
  have apart : ms.keys.Nodup := (Json.distinct_of_parse? parsed).1
  constructor
  · intro read
    obtain ⟨-, unembedded, shallow⟩ :=
      (Json.parse?_compact_iff (integral_inherit apart integral integral_master)).1 read
    exact ⟨unembedded.1, shallow⟩
  · exact parse?_merged parsed parsed_master integral integral_master

/-- **Two texts are merged to the text of the merged members.** -/
theorem exists_mergedText :
    ∃ text, merge stream masterStream = .ok text ∧
      MergedText ms master (inherit ms master) text :=
  ⟨_, merge_eq_ok parsed parsed_master, rfl,
    mixed_inherit (Json.distinct_of_parse? parsed).1 master,
    legible_iff parsed parsed_master integral integral_master⟩

end Texts

/-- A text in which the reserved key does not occur. -/
def PlainText (text : String) : Prop := ∀ tree, RawJson.parse? text = some tree → tree.Unreserved

theorem plainText_pretty {v : Json} (integral : v.Integral) (free : v.raw.Unreserved) :
    PlainText v.pretty := by
  intro tree read
  rw [RawJson.parse?_pretty integral] at read
  exact Option.some.inj read ▸ free

/-- Without the reserved key, the order of members does not matter for reading them back. -/
theorem Legible.of_perm {ms ms' : Members} (legible : Legible ms)
    (free : RawJson.embeddedKey ∉ ms.keys) (same : ms'.Perm ms) : Legible ms' where
  unembedded first := free ((same.map Prod.fst).mem_iff.1 (List.mem_of_head? first))
  shallow := by
    refine Nat.succ_le_succ (Json.depthOfMembers_le_iff.2 fun m there => ?_)
    have inside := Json.depthOfMembers_le_iff.1 (Nat.le_of_succ_le_succ legible.shallow)
    exact inside m (same.mem_iff.1 there)

/-- **The laws of merging.**  A merged text is read back as an object with the master's members
under the inherited keys and the fallback's own under all others.  Merged again with the same
master, the text stays the same.  Merged with another master, it has the members that it would have
had with that master from the start, and is read back as well if the reserved key is not used. -/
theorem merge_laws {stream masterStream lastStream : String} {ms : Members} {master last : Json}
    (parsed : Json.parse? stream = some (.obj ms))
    (parsed_master : Json.parse? masterStream = some master)
    (parsed_last : Json.parse? lastStream = some last)
    (integral : (Json.obj ms).Integral) (integral_master : master.Integral)
    (integral_last : last.Integral) (legible : Legible (inherit ms master)) :
    ∃ text merged, merge stream masterStream = .ok text ∧ MergedText ms master merged text ∧
      Json.parse? text = some (.obj merged) ∧
      merge text masterStream = .ok text ∧
      ∃ again againText direct directText,
        (merge text lastStream = .ok againText ∧ MergedText merged last again againText) ∧
        (merge stream lastStream = .ok directText ∧ MergedText ms last direct directText) ∧
        again.Perm direct ∧
        (PlainText stream → PlainText lastStream →
          Json.parse? againText = some (.obj again) ∧
            Json.parse? directText = some (.obj direct)) := by
  obtain ⟨text, made, described⟩ :=
    exists_mergedText parsed parsed_master integral integral_master
  have read := described.read_iff.2 legible
  have integral_merged : (Json.obj (inherit ms master)).Integral :=
    integral_inherit (Json.distinct_of_parse? parsed).1 integral integral_master
  obtain ⟨againText, made_again, again⟩ :=
    exists_mergedText read parsed_last integral_merged integral_last
  obtain ⟨directText, made_directly, direct⟩ :=
    exists_mergedText parsed parsed_last integral integral_last
  have same : (inherit (inherit ms master) last).Perm (inherit ms last) :=
    (described.mixed.trans again.mixed).perm direct.mixed
  refine ⟨text, _, made, described, read, ?_, _, againText, _, directText, ⟨made_again, again⟩,
    ⟨made_directly, direct⟩, same, fun plain plain_last => ?_⟩
  · rw [merge_eq_ok read parsed_master, described.mixed.inherit_eq_self, described.written]
  · have legible_direct : Legible (inherit ms last) :=
      legible_inherit parsed parsed_last plain plain_last
    have free : RawJson.embeddedKey ∉ (inherit ms last).keys := not_mem_keys_inherit parsed plain
    exact ⟨again.read_iff.2 (legible_direct.of_perm free same),
      direct.read_iff.2 legible_direct⟩

/-- First behind a master with TLS and then behind one with Reality, a fallback keeps its path, and
nothing of the first master stays. -/
theorem merge_laws_moved : ∃ (text againText : String) (again direct : Members),
    merge (Json.obj fallbackMembers).pretty (Json.obj tlsMaster).pretty = .ok text ∧
      merge text (Json.obj tlsMaster).pretty = .ok text ∧
      merge text (Json.obj realityMaster).pretty = .ok againText ∧
      Json.parse? againText = some (.obj again) ∧ again.Perm direct ∧
      again.get? "security" = some (.str "reality") ∧ again.get? "tlsSettings" = none ∧
      again.get? "wsSettings" = some (.obj [("path", .str "/fb")]) := by
  have parsed : Json.parse? (Json.obj fallbackMembers).pretty = some (.obj fallbackMembers) :=
    Json.ReadsBack.parse?_pretty (by decide)
  have parsed_tls : Json.parse? (Json.obj tlsMaster).pretty = some (.obj tlsMaster) :=
    Json.ReadsBack.parse?_pretty (by decide)
  have parsed_reality : Json.parse? (Json.obj realityMaster).pretty = some (.obj realityMaster) :=
    Json.ReadsBack.parse?_pretty (by decide)
  have plain : PlainText (Json.obj fallbackMembers).pretty :=
    plainText_pretty (by decide) (by
      simp [fallbackMembers, Json.raw, Json.rawMembers, RawJson.Unreserved,
        RawJson.UnreservedMembers, RawJson.embeddedKey])
  have plain_reality : PlainText (Json.obj realityMaster).pretty :=
    plainText_pretty (by decide) (by
      simp [realityMaster, Json.raw, Json.rawItems, Json.rawMembers, RawJson.Unreserved,
        RawJson.UnreservedItems, RawJson.UnreservedMembers, RawJson.embeddedKey])
  obtain ⟨text, merged, made, first, -, repeated, again, againText, direct, _, ⟨made_again, second⟩,
    -, same, read⟩ := merge_laws parsed parsed_tls parsed_reality (by decide) (by decide)
      (by decide) ⟨by decide, by decide⟩
  refine ⟨text, againText, again, direct, made, repeated, made_again,
    (read plain plain_reality).1, same, ?_, ?_, ?_⟩
  · exact second.mixed.taken "security" (by decide)
  · exact second.mixed.taken "tlsSettings" (by decide)
  · exact (first.mixed.trans second.mixed).kept "wsSettings" (by decide)

/-- Stream settings with the reserved key, which a removed member brings to the front. -/
def reservedLast : Members :=
  [("security", .str "none"), ("network", .str "ws"), (RawJson.embeddedKey, .str "x")]

/-- **A merged text that begins with the reserved key cannot be read**, so it has no network, and
merging it again fails. -/
theorem merge_not_repeatable :
    Json.parse? (Json.obj reservedLast).compact = some (.obj reservedLast) ∧
      Json.parse? (Json.obj []).compact = some (.obj []) ∧ (Json.obj reservedLast).Integral ∧
      ∃ text, merge (Json.obj reservedLast).compact (Json.obj []).compact = .ok text ∧
        Json.parse? text = none ∧
        merge text (Json.obj []).compact = .error .fallbackNotJson := by
  have parsed : Json.parse? (Json.obj reservedLast).compact = some (.obj reservedLast) :=
    Json.ReadsBack.parse?_compact (by decide)
  have parsed_empty : Json.parse? (Json.obj []).compact = some (.obj []) :=
    Json.ReadsBack.parse?_compact (by decide)
  have unread : Json.parse? (Json.obj (inherit reservedLast (.obj []))).compact = none := by
    have moved : inherit reservedLast (.obj []) =
        [(RawJson.embeddedKey, .str "x"), ("network", .str "ws")] := by rfl
    rw [moved, Json.parse?, RawJson.document?, RawJson.parse?_compact (by decide)]
    rfl
  refine ⟨parsed, parsed_empty, by decide, _, merge_eq_ok parsed parsed_empty, unread, ?_⟩
  rw [merge, unread]

end Fallback
end ProxyFeed
