import ProxyFeed.Proofs.Json.Members

/-!
# Values read from texts

Which values a text can have at all: the reader keeps the last of repeated members, and what begins
with the reserved key is the text of another document, whose value comes in its place.  So neither
repeated keys nor an object that begins with that key is left in a value.  A document in a string
has brackets of its own, though, so a value can be deeper than one text may be.

## What is here

* `RawJson.everyObject_value?` — conditions on objects that hold of every object as it is read.
* `Json.distinct_of_parse?` and `Json.unembedded_of_parse?` — the two that every value satisfies.
* `Json.parse?_compact_iff` — which values are read back from their own text.
* `RawJson.Unreserved` — a tree in which the reserved key does not occur; its value is no deeper
  than the tree, and without that key as well.
-/

set_option autoImplicit false
namespace ProxyFeed

/-- A list is mapped one by one. -/
theorem mapM_eq_some_iff {α β : Type} {f : α → Option β} {xs : List α} {ys : List β} :
    xs.mapM f = some ys ↔ List.Forall₂ (fun x y => f x = some y) xs ys := by
  induction xs generalizing ys with
  | nil => simp [eq_comm]
  | cons x xs ih =>
    simp only [List.mapM_cons, Option.bind_eq_bind, Option.bind_eq_some_iff, Option.pure_def,
      Option.some.injEq, List.forall₂_cons_left_iff, ih]
    constructor
    · rintro ⟨y, first, rest, others, rfl⟩
      exact ⟨y, rest, first, others, rfl⟩
    · rintro ⟨y, rest, first, others, rfl⟩
      exact ⟨y, first, rest, others, rfl⟩

theorem exists_of_forall₂ {α β : Type} {r : α → β → Prop} {xs : List α} {ys : List β}
    (pairs : List.Forall₂ r xs ys) : ∀ y ∈ ys, ∃ x ∈ xs, r x y := by
  induction pairs with
  | nil => simp
  | @cons x y xs ys first _ ih =>
    refine List.forall_mem_cons.2 ⟨⟨x, List.mem_cons_self, first⟩, fun z there => ?_⟩
    obtain ⟨x', hx', related⟩ := ih z there
    exact ⟨x', List.mem_cons_of_mem x hx', related⟩

namespace Members

/-! ## Members as they are read -/

section Keys

variable (l : List (String × Json))

/-- What holds before and after each member holds in the end. -/
theorem ofList_induction {p : List (String × Json) → Members → Prop} (start : p [] [])
    (step : ∀ before acc m, p before acc → p (before ++ [m]) (acc.set m.1 m.2)) :
    p l (ofList l) := by
  suffices run : ∀ rest before acc, p before acc →
      p (before ++ rest) (rest.foldl (fun acc m => acc.set m.1 m.2) acc) from run l [] [] start
  intro rest
  induction rest with
  | nil =>
    intro before acc held
    rwa [List.append_nil]
  | cons m rest ih =>
    intro before acc held
    have next := ih (before ++ [m]) (acc.set m.1 m.2) (step before acc m held)
    rwa [List.append_assoc, List.singleton_append] at next

theorem nodup_keys_ofList : (ofList l).keys.Nodup :=
  ofList_induction (p := fun _ acc => acc.keys.Nodup) l List.nodup_nil
    fun _ _ m apart => nodup_keys_set apart m.1 m.2

/-- The first key stays first. -/
theorem head?_keys_ofList : (ofList l).keys.head? = (keys l).head? := by
  refine ofList_induction (p := fun before acc => acc.keys.head? = (keys before).head?) l rfl ?_
  intro before acc m same
  have after : (keys (before ++ [m])).head? = (keys before).head?.or (some m.1) := by
    rw [keys, List.map_append, List.head?_append]
    rfl
  rw [keys_set, after, ← same]
  split
  · next there =>
    obtain ⟨first, rest, shape⟩ := List.exists_cons_of_ne_nil (List.ne_nil_of_mem there)
    rw [shape]
    rfl
  · rw [List.head?_append]
    rfl

theorem mem_of_mem_ofList {m : String × Json} (h : m ∈ ofList l) : m ∈ l := by
  refine ofList_induction (p := fun before acc => ∀ m ∈ acc, m ∈ before) l (by simp) ?_ m h
  rintro before acc new inside ⟨k, w⟩ there
  rw [List.mem_append, List.mem_singleton]
  rcases mem_set.1 there with ⟨rfl, rfl⟩ | ⟨-, old⟩
  · exact .inr rfl
  · exact .inl (inside _ old)

end Keys

end Members

namespace RawJson

/-! ## Ways to read a value -/

/-- Where the value of a tree comes from, one level deep. -/
inductive ReadFrom (document? : String → Option Json) : Nat → RawJson → Json → Prop where
  | leaf {limit : Nat} {tree : RawJson} {v : Json} (no_items : v.arr? = none)
      (no_members : v.obj? = none) : ReadFrom document? limit tree v
  | items {limit : Nat} {trees : List RawJson} {values : List Json}
      (each : List.Forall₂ (fun t v => value? document? limit t = some v) trees values) :
      ReadFrom document? (limit + 1) (.arr trees) (.arr values)
  | members {limit : Nat} {trees : List (Option String × RawJson)} {l : List (String × Json)}
      (plain : embedded? trees = none)
      (each : List.Forall₂ (fun t m => t.1 = some m.1 ∧ value? document? limit t.2 = some m.2)
        trees l) : ReadFrom document? (limit + 1) (.obj trees) (.obj (Members.ofList l))
  | embedded {limit : Nat} {trees : List (Option String × RawJson)} {text : String} {v : Json}
      (there : embedded? trees = some (some text)) (made : document? text = some v) :
      ReadFrom document? (limit + 1) (.obj trees) v

theorem readFrom_of_value? {document? : String → Option Json} {limit : Nat} {tree : RawJson}
    {v : Json} (h : value? document? limit tree = some v) : ReadFrom document? limit tree v := by
  cases tree with
  | null | bool b =>
    rw [value?] at h
    obtain rfl := Option.some.inj h
    exact .leaf rfl rfl
  | num value | str text =>
    rw [value?] at h
    obtain ⟨_, -, rfl⟩ := Option.map_eq_some_iff.1 h
    exact .leaf rfl rfl
  | arr trees =>
    cases limit with
    | zero => cases h
    | succ limit =>
      obtain ⟨values, each, rfl⟩ := Option.map_eq_some_iff.1 h
      exact .items (mapM_eq_some_iff.1 each)
  | obj trees =>
    cases limit with
    | zero => cases h
    | succ limit =>
      rw [value?] at h
      split at h
      · next text? there =>
        obtain ⟨text, rfl, made⟩ := Option.bind_eq_some_iff.1 h
        exact .embedded there made
      · next plain =>
        obtain ⟨l, each, rfl⟩ := Option.map_eq_some_iff.1 h
        refine .members plain ((mapM_eq_some_iff.1 each).imp fun t m made => ?_)
        obtain ⟨k, key, rest⟩ := Option.bind_eq_some_iff.1 made
        obtain ⟨w, value, pair⟩ := Option.bind_eq_some_iff.1 rest
        obtain rfl := Option.some.inj pair
        exact ⟨key, value⟩

/-- An object that is read as one does not begin with the reserved key. -/
theorem head?_keys_of_plain {trees : List (Option String × RawJson)} {l : List (String × Json)}
    (plain : embedded? trees = none) (keys : List.Forall₂ (fun t m => t.1 = some m.1) trees l) :
    (Members.keys l).head? ≠ some embeddedKey := by
  cases keys with
  | nil => simp [Members.keys]
  | @cons t m trees l first _ =>
    obtain ⟨key, v⟩ := t
    obtain rfl : key = some m.1 := first
    intro reserved
    have reserved : m.1 = embeddedKey := Option.some.inj reserved
    unfold embedded? at plain
    simp only [reserved, if_true] at plain
    split at plain <;> cases plain

/-- What an embedded document stands for. -/
theorem value?_embedded (document? : String → Option Json) (limit : Nat) (text : String) :
    value? document? (limit + 1) (.obj [(some embeddedKey, .str (some text))]) =
      document? text := by
  have there : embedded? [(some embeddedKey, .str (some text))] = some (some text) := by
    rw [embedded?, if_pos rfl]
  rw [value?, there]
  rfl

end RawJson

namespace Json

/-! ## Every object of a value -/

section Leaf

variable {v : Json} (no_items : v.arr? = none) (no_members : v.obj? = none)

include no_items no_members

theorem everyObject_of_leaf {p : Members → Prop} : v.EveryObject p := by
  cases v with
  | null | bool | num | str => trivial
  | arr items => cases no_items
  | obj ms => cases no_members

theorem depth_of_leaf : v.depth = 0 := by
  cases v with
  | null | bool | num | str => rfl
  | arr items => cases no_items
  | obj ms => cases no_members

end Leaf

end Json

namespace RawJson

section EveryObject

variable {p : Members → Prop}
  (read : ∀ l : List (String × Json), (Members.keys l).head? ≠ some embeddedKey →
    p (Members.ofList l))

include read

/-- **What every object satisfies as it is read, every object in a value satisfies**, if the values
of embedded documents do. -/
theorem everyObject_value? {document? : String → Option Json}
    (documents : ∀ text w, document? text = some w → w.EveryObject p) {limit : Nat} {tree : RawJson}
    {v : Json} (h : value? document? limit tree = some v) : v.EveryObject p := by
  induction limit generalizing tree v with
  | zero =>
    cases readFrom_of_value? h with
    | leaf no_items no_members => exact Json.everyObject_of_leaf no_items no_members
  | succ limit ih =>
    cases readFrom_of_value? h with
    | leaf no_items no_members => exact Json.everyObject_of_leaf no_items no_members
    | items each =>
      refine Json.everyObjectItems_iff.2 fun w hw => ?_
      obtain ⟨_, -, made⟩ := exists_of_forall₂ each w hw
      exact ih made
    | @members _ trees l plain each =>
      refine ⟨read l (head?_keys_of_plain plain (each.imp fun _ _ made => made.1)), ?_⟩
      refine Json.everyObjectMembers_iff.2 fun m hm => ?_
      obtain ⟨_, -, -, made⟩ := exists_of_forall₂ each m (Members.mem_of_mem_ofList l hm)
      exact ih made
    | embedded _ made => exact documents _ v made

theorem everyObject_document? {depth : Nat} {text : String} {v : Json}
    (h : document? depth text = some v) : v.EveryObject p := by
  induction depth generalizing text v with
  | zero => cases h
  | succ depth ih =>
    obtain ⟨tree, -, made⟩ := Option.bind_eq_some_iff.1 h
    exact everyObject_value? read (fun _ _ => ih) made

end EveryObject

end RawJson

namespace Json

variable {text : String} {v : Json}

/-- **No value has an object with a repeated key.** -/
theorem distinct_of_parse? (h : parse? text = some v) : v.Distinct :=
  RawJson.everyObject_document? (fun l _ => Members.nodup_keys_ofList l) h

/-- **No value has an object that begins with the reserved key.** -/
theorem unembedded_of_parse? (h : parse? text = some v) : v.Unembedded :=
  RawJson.everyObject_document? (fun l first => by rwa [Members.head?_keys_ofList]) h

end Json

/-! ## Values that are read back -/

theorem exists_of_forall₂_left {α β : Type} {r : α → β → Prop} {xs : List α} {ys : List β}
    (pairs : List.Forall₂ r xs ys) : ∀ x ∈ xs, ∃ y ∈ ys, r x y :=
  exists_of_forall₂ pairs.flip

namespace RawJson

open Json (rawItems rawMembers)

theorem rawItems_eq_map (items : List Json) : rawItems items = items.map Json.raw := by
  induction items with
  | nil => rfl
  | cons item items ih => rw [rawItems, ih, List.map_cons]

theorem rawMembers_eq_map (ms : List (String × Json)) :
    rawMembers ms = ms.map fun m => (some m.1, m.2.raw) := by
  induction ms with
  | nil => rfl
  | cons m ms ih => rw [rawMembers, ih, List.map_cons]

/-- The tree of a value has a value only within its limit. -/
theorem depth_le_of_value?_raw {document? : String → Option Json} {limit : Nat} {v w : Json}
    (unembedded : v.Unembedded) (read : value? document? limit v.raw = some w) :
    v.depth ≤ limit := by
  induction limit generalizing v w with
  | zero =>
    cases v with
    | null | bool b | num n | str s => exact Nat.zero_le _
    | arr items | obj ms => cases read
  | succ limit ih =>
    cases v with
    | null | bool b | num n | str s => exact Nat.zero_le _
    | arr items =>
      obtain ⟨values, each, -⟩ := Option.map_eq_some_iff.1 read
      rw [mapM_eq_some_iff, rawItems_eq_map] at each
      refine Nat.succ_le_succ (Json.depthOfItems_le_iff.2 fun item there => ?_)
      obtain ⟨_, -, made⟩ := exists_of_forall₂_left each _ (List.mem_map_of_mem there)
      exact ih (unembedded.of_mem item there) made
    | obj ms =>
      rw [Json.raw, value?, embedded?_rawMembers unembedded.1] at read
      obtain ⟨values, each, -⟩ := Option.map_eq_some_iff.1 read
      rw [mapM_eq_some_iff, rawMembers_eq_map] at each
      refine Nat.succ_le_succ (Json.depthOfMembers_le_iff.2 fun m there => ?_)
      obtain ⟨_, -, made⟩ := exists_of_forall₂_left each _ (List.mem_map_of_mem there)
      obtain ⟨_, -, rest⟩ := Option.bind_eq_some_iff.1 made
      obtain ⟨_, value, -⟩ := Option.bind_eq_some_iff.1 rest
      exact ih (Json.everyObjectMembers_iff.1 unembedded.2 m there) value

end RawJson

/-- **A value is read back from its text exactly if** it repeats no key, has no object that begins
with the reserved key, and is not too deep. -/
theorem Json.parse?_compact_iff {v : Json} (integral : v.Integral) :
    parse? v.compact = some v ↔
      v.Distinct ∧ v.Unembedded ∧ v.depth ≤ RawJson.nestingLimit := by
  constructor
  · intro read
    have unembedded := unembedded_of_parse? read
    refine ⟨distinct_of_parse? read, unembedded, ?_⟩
    rw [parse?, RawJson.document?, RawJson.parse?_compact integral, Option.bind_some] at read
    exact RawJson.depth_le_of_value?_raw unembedded read
  · rintro ⟨distinct, unembedded, shallow⟩
    exact parse?_compact integral distinct unembedded shallow

/-! ## Trees without the reserved key -/

namespace RawJson

mutual

/-- The reserved key is not among the keys of a tree. -/
def Unreserved : RawJson → Prop
  | .arr items => UnreservedItems items
  | .obj ms => UnreservedMembers ms
  | _ => True

/-- The same of each item of an array. -/
def UnreservedItems : List RawJson → Prop
  | [] => True
  | item :: rest => item.Unreserved ∧ UnreservedItems rest

/-- The same of the members of an object. -/
def UnreservedMembers : List (Option String × RawJson) → Prop
  | [] => True
  | (key, v) :: rest => key ≠ some embeddedKey ∧ v.Unreserved ∧ UnreservedMembers rest

end

theorem unreservedItems_iff {items : List RawJson} :
    UnreservedItems items ↔ ∀ item ∈ items, item.Unreserved := by
  induction items with
  | nil => exact ⟨fun _ _ h => absurd h List.not_mem_nil, fun _ => trivial⟩
  | cons item items ih => rw [UnreservedItems, ih, List.forall_mem_cons]

theorem unreservedMembers_iff {ms : List (Option String × RawJson)} :
    UnreservedMembers ms ↔ ∀ m ∈ ms, m.1 ≠ some embeddedKey ∧ m.2.Unreserved := by
  induction ms with
  | nil => exact ⟨fun _ _ h => absurd h List.not_mem_nil, fun _ => trivial⟩
  | cons m ms ih => rw [UnreservedMembers, ih, List.forall_mem_cons, and_assoc]

/-- Nothing is embedded in such a tree. -/
theorem Unreserved.embedded?_eq_none {trees : List (Option String × RawJson)}
    (h : (RawJson.obj trees).Unreserved) : embedded? trees = none := by
  unfold embedded?
  split
  · next key v rest =>
    have other : key ≠ embeddedKey := fun same => h.1 (congrArg some same)
    rw [if_neg other]
  · rfl

variable {document? : String → Option Json} {limit : Nat} {tree : RawJson} {v : Json}

/-- **The value of a tree without the reserved key is no deeper than the tree may be.** -/
theorem Unreserved.depth_le (h : tree.Unreserved) (read : value? document? limit tree = some v) :
    v.depth ≤ limit := by
  induction limit generalizing tree v with
  | zero =>
    cases readFrom_of_value? read with
    | leaf no_items no_members => rw [Json.depth_of_leaf no_items no_members]
  | succ limit ih =>
    cases readFrom_of_value? read with
    | leaf no_items no_members =>
      rw [Json.depth_of_leaf no_items no_members]
      exact Nat.zero_le _
    | items each =>
      refine Nat.succ_le_succ (Json.depthOfItems_le_iff.2 fun w hw => ?_)
      obtain ⟨item, there, made⟩ := exists_of_forall₂ each w hw
      exact ih (unreservedItems_iff.1 h item there) made
    | @members _ trees l _ each =>
      refine Nat.succ_le_succ (Json.depthOfMembers_le_iff.2 fun m hm => ?_)
      obtain ⟨t, there, -, made⟩ := exists_of_forall₂ each m (Members.mem_of_mem_ofList l hm)
      exact ih (unreservedMembers_iff.1 h t there).2 made
    | embedded there _ =>
      rw [h.embedded?_eq_none] at there
      cases there

/-- **Nor does it have the key.** -/
theorem Unreserved.not_mem_keys (h : tree.Unreserved) {ms : Members}
    (read : value? document? limit tree = some (.obj ms)) : embeddedKey ∉ ms.keys := by
  cases readFrom_of_value? read with
  | leaf _ no_members => cases no_members
  | @members _ trees l _ each =>
    intro there
    obtain ⟨m, hm, same⟩ := List.mem_map.1 there
    obtain ⟨t, ht, key, -⟩ := exists_of_forall₂ each m (Members.mem_of_mem_ofList l hm)
    exact (unreservedMembers_iff.1 h t ht).1 (key.trans (congrArg some same))
  | embedded there _ =>
    rw [h.embedded?_eq_none] at there
    cases there

end RawJson
end ProxyFeed
