import ProxyFeed.Proofs.Json.ReadBack
import ProxyFeed.Proofs.Keyed

/-!
# The value of a written tree

A reader of values refuses deep trees, lets the last of repeated members win, and takes an object
that begins with one reserved key for something else.  A value in which none of this happens is the
value of its own tree, so it is read back from every text that is read as that tree.

## What is here

* `Json.EveryObject` — a condition on each object inside a value; `Json.Distinct` and
  `Json.Unembedded` are the two that matter here.
* `Json.depth` — how many brackets are open at a time.
* `RawJson.value?_raw` and `Json.parse?_of_raw` — a value is read back from its tree.
* `Json.ReadsBack` — all of the conditions at once, which can be computed.
-/

set_option autoImplicit false
namespace ProxyFeed

namespace Members

/-- The keys of members, in order. -/
def keys (ms : Members) : List String := ms.map (·.1)

theorem set_of_not_mem {ms : Members} {key : String} (h : key ∉ ms.keys) (v : Json) :
    ms.set key v = ms ++ [(key, v)] :=
  Keyed.put_of_not_mem h v

/-- Members under different keys are read one after the other as they are. -/
theorem ofList_eq_self {ms : Members} (h : ms.keys.Nodup) : ofList ms = ms := by
  suffices read : ∀ (rest before : Members), (before ++ rest).keys.Nodup →
      rest.foldl (fun acc m => acc.set m.1 m.2) before = before ++ rest from read ms [] h
  intro rest
  induction rest with
  | nil => simp
  | cons m rest ih =>
    intro before apart
    have new : m.1 ∉ before.keys := by
      rw [keys, List.map_append, List.map_cons] at apart
      intro there
      exact (List.nodup_append.1 apart).2.2 _ there _ List.mem_cons_self rfl
    have shape : before ++ m :: rest = before ++ [m] ++ rest := by simp
    rw [List.foldl_cons, set_of_not_mem new, shape]
    exact ih _ (shape ▸ apart)

end Members

namespace Json

mutual

/-- A condition on each object inside a value, the value itself included. -/
def EveryObject (p : Members → Prop) : Json → Prop
  | .arr items => EveryObjectItems p items
  | .obj ms => p ms ∧ EveryObjectMembers p ms
  | _ => True

/-- The same of each item of an array. -/
def EveryObjectItems (p : Members → Prop) : List Json → Prop
  | [] => True
  | item :: rest => item.EveryObject p ∧ EveryObjectItems p rest

/-- The same of the value of each member of an object. -/
def EveryObjectMembers (p : Members → Prop) : List (String × Json) → Prop
  | [] => True
  | (_, v) :: rest => v.EveryObject p ∧ EveryObjectMembers p rest

end

section Decidable

variable {p : Members → Prop} [DecidablePred p]

mutual

/-- Whether every object satisfies a condition can be computed if the condition can. -/
def decidableEveryObject : ∀ v : Json, Decidable (v.EveryObject p)
  | .null | .bool _ | .num _ | .str _ => inferInstanceAs (Decidable True)
  | .arr items => decidableEveryObjectItems items
  | .obj ms => @instDecidableAnd _ _ (inferInstanceAs (Decidable (p ms)))
      (decidableEveryObjectMembers ms)

/-- The same of each item of an array. -/
def decidableEveryObjectItems : ∀ items : List Json, Decidable (EveryObjectItems p items)
  | [] => inferInstanceAs (Decidable True)
  | item :: rest =>
    @instDecidableAnd _ _ (decidableEveryObject item) (decidableEveryObjectItems rest)

/-- The same of the value of each member of an object. -/
def decidableEveryObjectMembers :
    ∀ ms : List (String × Json), Decidable (EveryObjectMembers p ms)
  | [] => inferInstanceAs (Decidable True)
  | (_, v) :: rest =>
    @instDecidableAnd _ _ (decidableEveryObject v) (decidableEveryObjectMembers rest)

end

end Decidable

/-- No object repeats a key. -/
def Distinct : Json → Prop := EveryObject fun ms => ms.keys.Nodup

/-- No object begins with the key reserved for embedded documents. -/
def Unembedded : Json → Prop := EveryObject fun ms => ms.keys.head? ≠ some RawJson.embeddedKey

instance (v : Json) : Decidable v.Distinct := decidableEveryObject v

instance (v : Json) : Decidable v.Unembedded := decidableEveryObject v

mutual

/-- The greatest number of brackets open at a time. -/
def depth : Json → Nat
  | .arr items => depthOfItems items + 1
  | .obj ms => depthOfMembers ms + 1
  | _ => 0

/-- The same inside the items of an array. -/
def depthOfItems : List Json → Nat
  | [] => 0
  | item :: rest => max item.depth (depthOfItems rest)

/-- The same inside the members of an object. -/
def depthOfMembers : List (String × Json) → Nat
  | [] => 0
  | (_, v) :: rest => max v.depth (depthOfMembers rest)

end

end Json

namespace RawJson

open Json (EveryObject EveryObjectItems EveryObjectMembers Distinct Unembedded depth depthOfItems
  depthOfMembers rawItems rawMembers)

theorem embedded?_rawMembers {ms : Members} (h : ms.keys.head? ≠ some embeddedKey) :
    embedded? (rawMembers ms) = none := by
  cases ms with
  | nil => rfl
  | cons m ms =>
    have other : m.1 ≠ embeddedKey := fun same => h (congrArg some same)
    simp [rawMembers, embedded?, other]

variable {document? : String → Option Json}

mutual

/-- **A value is the value of its tree**, unless a key is repeated, an object begins with the
reserved key, or there are too many brackets. -/
theorem value?_raw : ∀ (limit : Nat) (v : Json), v.Distinct → v.Unembedded → v.depth ≤ limit →
    value? document? limit v.raw = some v
  | _, .null, _, _, _ => by rw [Json.raw, value?]
  | _, .bool _, _, _, _ => by rw [Json.raw, value?]
  | _, .num _, _, _, _ => by rw [Json.raw, value?]; rfl
  | _, .str _, _, _, _ => by rw [Json.raw, value?]; rfl
  | limit + 1, .arr items, distinct, unembedded, shallow => by
    have inside := value?_rawItems limit items distinct unembedded (Nat.le_of_succ_le_succ shallow)
    rw [Json.raw, value?, inside]
    rfl
  | limit + 1, .obj ms, distinct, unembedded, shallow => by
    have inside := value?_rawMembers limit ms distinct.2 unembedded.2
      (Nat.le_of_succ_le_succ shallow)
    rw [Json.raw, value?, embedded?_rawMembers unembedded.1]
    simp only [inside, Option.map_some, Members.ofList_eq_self distinct.1]
  | 0, .arr _, _, _, shallow => absurd shallow (Nat.not_succ_le_zero _)
  | 0, .obj _, _, _, shallow => absurd shallow (Nat.not_succ_le_zero _)

theorem value?_rawItems : ∀ (limit : Nat) (items : List Json),
    EveryObjectItems (fun ms => ms.keys.Nodup) items →
    EveryObjectItems (fun ms => ms.keys.head? ≠ some embeddedKey) items →
    depthOfItems items ≤ limit → (rawItems items).mapM (value? document? limit) = some items
  | _, [], _, _, _ => rfl
  | limit, item :: items, distinct, unembedded, shallow => by
    obtain ⟨first, rest⟩ := Nat.max_le.1 shallow
    rw [rawItems, List.mapM_cons, value?_raw limit item distinct.1 unembedded.1 first,
      value?_rawItems limit items distinct.2 unembedded.2 rest]
    rfl

theorem value?_rawMembers : ∀ (limit : Nat) (ms : List (String × Json)),
    EveryObjectMembers (fun ms => ms.keys.Nodup) ms →
    EveryObjectMembers (fun ms => ms.keys.head? ≠ some embeddedKey) ms →
    depthOfMembers ms ≤ limit →
    ((rawMembers ms).mapM fun (m : Option String × RawJson) => do
      return (← m.1, ← value? document? limit m.2)) = some ms
  | _, [], _, _, _ => rfl
  | limit, (k, v) :: ms, distinct, unembedded, shallow => by
    obtain ⟨first, rest⟩ := Nat.max_le.1 shallow
    have inside := value?_rawMembers limit ms distinct.2 unembedded.2 rest
    rw [rawMembers, List.mapM_cons, inside]
    simp only [value?_raw limit v distinct.1 unembedded.1 first]
    rfl

end

end RawJson

/-- **A value is read back from every text that is read as its tree.** -/
theorem Json.parse?_of_raw {s : String} {v : Json} (tree : RawJson.parse? s = some v.raw)
    (distinct : v.Distinct) (unembedded : v.Unembedded) (shallow : v.depth ≤ RawJson.nestingLimit) :
    parse? s = some v := by
  rw [parse?, RawJson.document?, tree, Option.bind_some,
    RawJson.value?_raw RawJson.nestingLimit v distinct unembedded shallow]

/-- **A value is read back from an indented text.** -/
theorem Json.parse?_pretty {v : Json} (integral : v.Integral) (distinct : v.Distinct)
    (unembedded : v.Unembedded) (shallow : v.depth ≤ RawJson.nestingLimit) :
    parse? v.pretty = some v :=
  parse?_of_raw (RawJson.parse?_pretty integral) distinct unembedded shallow

/-- **A value is read back from a text without spaces.** -/
theorem Json.parse?_compact {v : Json} (integral : v.Integral) (distinct : v.Distinct)
    (unembedded : v.Unembedded) (shallow : v.depth ≤ RawJson.nestingLimit) :
    parse? v.compact = some v :=
  parse?_of_raw (RawJson.parse?_compact integral) distinct unembedded shallow

/-- Values that are read back from what is written of them. -/
def Json.ReadsBack (v : Json) : Prop :=
  v.Integral ∧ v.Distinct ∧ v.Unembedded ∧ v.depth ≤ RawJson.nestingLimit

instance (v : Json) : Decidable v.ReadsBack := instDecidableAnd

namespace Json.ReadsBack

variable {v : Json}

theorem parse?_pretty (h : v.ReadsBack) : parse? v.pretty = some v :=
  Json.parse?_pretty h.1 h.2.1 h.2.2.1 h.2.2.2

theorem parse?_compact (h : v.ReadsBack) : parse? v.compact = some v :=
  Json.parse?_compact h.1 h.2.1 h.2.2.1 h.2.2.2

end Json.ReadsBack
end ProxyFeed
