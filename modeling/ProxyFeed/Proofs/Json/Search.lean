import ProxyFeed.Json.Search
import ProxyFeed.Proofs.Json.Value
import Mathlib.Data.List.Sort

/-!
# The first member in document order

A member anywhere in a value has an address: the places of the values on the way down, and last its
own place among its siblings.  Document order is the lexicographic order of addresses, in which a
member comes before the members inside its value, and what stands in one item or member comes before
what stands in a later one.

## What is here

* `Json.descend?` and `Json.memberAt?` — the value at a path, and the member at an address.
* `Json.InPreorder` — a list of all members anywhere in a value, each as often as it occurs, in the
  order of their addresses.  `Json.inPreorder_iff` says that there is one such list,
  `Json.members`.
* `Json.search_eq_find?_members` — a search that stops early, and after a miss goes on with the next
  sibling, finds what a look through that list finds.
* `Json.search_eq_first_in_preorder` — both together, and when nothing is found.
-/

set_option autoImplicit false
namespace ProxyFeed
namespace Json

/-! ## Addresses -/

/-- The values directly inside a value, in document order. -/
def children : Json → List Json
  | .arr items => items
  | .obj ms => ms.map (·.2)
  | _ => []

/-- The value reached from a value by going down, at each step into the child at a place. -/
def descend? : Json → List Nat → Option Json
  | v, [] => some v
  | v, i :: path => v.children[i]?.bind (descend? · path)

/-- The member at an address: the last place counts the members of the object that the places before
it lead to. -/
def memberAt? (v : Json) (address : List Nat) : Option (String × Json) := do
  let ms ← (← v.descend? address.dropLast).obj?
  ms[← address.getLast?]?

theorem memberAt?_nil (v : Json) : v.memberAt? [] = none := by
  cases v <;> rfl

theorem memberAt?_singleton (v : Json) (i : Nat) : v.memberAt? [i] = v.obj?.bind (·[i]?) := rfl

/-- An address of more than one place leads into a child. -/
theorem memberAt?_cons_cons (v : Json) (i j : Nat) (rest : List Nat) :
    v.memberAt? (i :: j :: rest) = v.children[i]?.bind (memberAt? · (j :: rest)) := by
  simp only [memberAt?, List.dropLast_cons_cons, List.getLast?_cons_cons, descend?]
  cases v.children[i]? <;> rfl

theorem memberAt?_append_singleton (v : Json) (path : List Nat) (i : Nat) :
    v.memberAt? (path ++ [i]) = ((v.descend? path).bind obj?).bind (·[i]?) := by
  rw [memberAt?, List.dropLast_concat, List.getLast?_concat]
  cases v.descend? path <;> rfl

/-! ## Members with their addresses -/

/-- A member, and its address. -/
abbrev Located := List Nat × (String × Json)

/-- What is located inside a child, as it is located in the value that holds the child. -/
def Located.below (i : Nat) (l : Located) : Located := (i :: l.1, l.2)

mutual

/-- The members anywhere in a value with their addresses, in document order. -/
def located : Json → List Located
  | .arr items => locatedInItems 0 items
  | .obj ms => locatedInMembers 0 ms
  | _ => []

/-- The same for the items of an array from a place on. -/
def locatedInItems (i : Nat) : List Json → List Located
  | [] => []
  | item :: rest => item.located.map (·.below i) ++ locatedInItems (i + 1) rest

/-- The same for the members of an object from a place on. -/
def locatedInMembers (i : Nat) : List (String × Json) → List Located
  | [] => []
  | (k, v) :: rest =>
    ([i], (k, v)) :: (v.located.map (·.below i) ++ locatedInMembers (i + 1) rest)

end

mutual

/-- Without their addresses, these are the members. -/
theorem map_located : ∀ v : Json, v.located.map (·.2) = v.members
  | .null | .bool _ | .num _ | .str _ => rfl
  | .arr items => map_locatedInItems items 0
  | .obj ms => map_locatedInMembers ms 0

theorem map_locatedInItems : ∀ (items : List Json) (i : Nat),
    (locatedInItems i items).map (·.2) = membersOfItems items
  | [], _ => rfl
  | item :: rest, i => by
    rw [locatedInItems, membersOfItems, List.map_append, List.map_map,
      ← map_locatedInItems rest (i + 1), ← map_located item]
    rfl

theorem map_locatedInMembers : ∀ (ms : List (String × Json)) (i : Nat),
    (locatedInMembers i ms).map (·.2) = membersOfMembers ms
  | [], _ => rfl
  | (k, v) :: rest, i => by
    rw [locatedInMembers, membersOfMembers, List.map_cons, List.map_append, List.map_map,
      ← map_locatedInMembers rest (i + 1), ← map_located v]
    rfl

end

/-! ## What is located where -/

/-- Inside an array, an address begins with the place of an item. -/
theorem mem_locatedInItems {a : List Nat} {m : String × Json} : ∀ {items : List Json} {i : Nat},
    (a, m) ∈ locatedInItems i items ↔
      ∃ j b, a = (i + j) :: b ∧ ∃ item, items[j]? = some item ∧ (b, m) ∈ item.located
  | [], i => by simp [locatedInItems]
  | item :: rest, i => by
    have shift (j : Nat) : i + 1 + j = i + (j + 1) := by omega
    rw [locatedInItems, List.mem_append, mem_locatedInItems]
    constructor
    · rintro (here | ⟨j, b, rfl, w, at_j, inside⟩)
      · obtain ⟨⟨b, m'⟩, inside, same⟩ := List.mem_map.1 here
        obtain ⟨rfl, rfl⟩ := Prod.mk.inj same
        exact ⟨0, b, rfl, item, rfl, inside⟩
      · exact ⟨j + 1, b, by rw [shift], w, at_j, inside⟩
    · rintro ⟨_ | j, b, rfl, w, at_j, inside⟩
      · obtain rfl := Option.some.inj at_j
        exact .inl (List.mem_map.2 ⟨(b, m), inside, rfl⟩)
      · exact .inr ⟨j, b, by rw [shift], w, at_j, inside⟩

/-- Inside an object, an address begins with the place of a member, and either ends there or goes on
in the value of that member. -/
theorem mem_locatedInMembers {a : List Nat} {m : String × Json} :
    ∀ {ms : List (String × Json)} {i : Nat}, (a, m) ∈ locatedInMembers i ms ↔
      ∃ j b, a = (i + j) :: b ∧ ((ms[j]? = some m ∧ b = []) ∨
        ∃ v, (ms.map (·.2))[j]? = some v ∧ (b, m) ∈ v.located)
  | [], i => by simp [locatedInMembers]
  | (k, v) :: rest, i => by
    have shift (j : Nat) : i + 1 + j = i + (j + 1) := by omega
    rw [locatedInMembers, List.mem_cons, List.mem_append, mem_locatedInMembers]
    constructor
    · rintro (itself | here | ⟨j, b, rfl, found⟩)
      · obtain ⟨rfl, rfl⟩ := Prod.mk.inj itself
        exact ⟨0, [], rfl, .inl ⟨rfl, rfl⟩⟩
      · obtain ⟨⟨b, m'⟩, inside, same⟩ := List.mem_map.1 here
        obtain ⟨rfl, rfl⟩ := Prod.mk.inj same
        exact ⟨0, b, rfl, .inr ⟨v, rfl, inside⟩⟩
      · exact ⟨j + 1, b, by rw [shift], found⟩
    · rintro ⟨_ | j, b, rfl, found⟩
      · obtain ⟨itself, rfl⟩ | ⟨w, at_j, inside⟩ := found
        · obtain rfl := Option.some.inj itself
          exact .inl rfl
        · obtain rfl := Option.some.inj at_j
          exact .inr (.inl (List.mem_map.2 ⟨(b, m), inside, rfl⟩))
      · exact .inr (.inr ⟨j, b, by rw [shift], found⟩)

/-- One step down an address: it ends at a member of the value itself, or leads on in a child. -/
theorem cons_mem_located {v : Json} {i : Nat} {a : List Nat} {m : String × Json} :
    (i :: a, m) ∈ v.located ↔ (v.obj?.bind (·[i]?) = some m ∧ a = []) ∨
      ∃ w, v.children[i]? = some w ∧ (a, m) ∈ w.located := by
  cases v with
  | arr items => simp [located, mem_locatedInItems, children, obj?]
  | obj ms => simp [located, mem_locatedInMembers, children, obj?]
  | _ => simp [located, children, obj?]

theorem memberAt?_cons {v : Json} {i : Nat} {a : List Nat} {m : String × Json} :
    v.memberAt? (i :: a) = some m ↔ (v.obj?.bind (·[i]?) = some m ∧ a = []) ∨
      ∃ w, v.children[i]? = some w ∧ w.memberAt? a = some m := by
  cases a with
  | nil => simp [memberAt?_singleton, memberAt?_nil]
  | cons j rest => simp [memberAt?_cons_cons, Option.bind_eq_some_iff]

theorem nil_not_mem_located {v : Json} {m : String × Json} : ([], m) ∉ v.located := by
  cases v with
  | arr items => simp [located, mem_locatedInItems]
  | obj ms => simp [located, mem_locatedInMembers]
  | _ => simp [located]

/-- **What is located at an address is the member there.** -/
theorem mem_located_iff {a : List Nat} {m : String × Json} :
    ∀ {v : Json}, (a, m) ∈ v.located ↔ v.memberAt? a = some m := by
  -- each place of the address leads one step down, so there is no need to follow the tree
  induction a with
  | nil => intro v; simp [nil_not_mem_located, memberAt?_nil]
  | cons i a ih => intro v; simp only [cons_mem_located, memberAt?_cons, ih]

/-! ## Document order -/

theorem below_lt_below {i : Nat} {l l' : Located} (h : l.1 < l'.1) :
    (l.below i).1 < (l'.below i).1 :=
  List.cons_lt_cons_self.2 h

theorem cons_lt_cons_of_lt {i j : Nat} (h : i < j) (a b : List Nat) : i :: a < j :: b :=
  List.cons_lt_cons_iff.2 (.inl h)

mutual

/-- **The members are located in document order.** -/
theorem pairwise_located : ∀ v : Json, v.located.Pairwise (·.1 < ·.1)
  | .null | .bool _ | .num _ | .str _ => List.Pairwise.nil
  | .arr items => pairwise_locatedInItems items 0
  | .obj ms => pairwise_locatedInMembers ms 0

theorem pairwise_locatedInItems : ∀ (items : List Json) (i : Nat),
    (locatedInItems i items).Pairwise (·.1 < ·.1)
  | [], _ => List.Pairwise.nil
  | item :: rest, i => by
    rw [locatedInItems, List.pairwise_append, List.pairwise_map]
    refine ⟨(pairwise_located item).imp below_lt_below, pairwise_locatedInItems rest (i + 1), ?_⟩
    rintro l here ⟨a, m⟩ later
    obtain ⟨l, -, rfl⟩ := List.mem_map.1 here
    obtain ⟨j, b, rfl, -⟩ := mem_locatedInItems.1 later
    exact cons_lt_cons_of_lt (by omega) l.1 b

theorem pairwise_locatedInMembers : ∀ (ms : List (String × Json)) (i : Nat),
    (locatedInMembers i ms).Pairwise (·.1 < ·.1)
  | [], _ => List.Pairwise.nil
  | (k, v) :: rest, i => by
    have later_lt (a : List Nat) : ∀ l ∈ locatedInMembers (i + 1) rest, i :: a < l.1 := by
      rintro ⟨b, m⟩ later
      obtain ⟨j, b, rfl, -⟩ := mem_locatedInMembers.1 later
      exact cons_lt_cons_of_lt (by omega) a b
    rw [locatedInMembers, List.pairwise_cons, List.forall_mem_append, List.pairwise_append,
      List.pairwise_map]
    refine ⟨⟨?_, later_lt []⟩, (pairwise_located v).imp below_lt_below,
      pairwise_locatedInMembers rest (i + 1), ?_⟩
    · -- a member stands before what is inside its value
      rintro l inside
      obtain ⟨⟨_ | ⟨j, b⟩, m⟩, located, rfl⟩ := List.mem_map.1 inside
      · exact absurd located nil_not_mem_located
      · exact List.cons_lt_cons_self.2 (List.nil_lt_cons j b)
    · rintro l inside
      obtain ⟨l, -, rfl⟩ := List.mem_map.1 inside
      exact later_lt l.1

end

/-- A list of all members anywhere in a value, each as often as it occurs, in document order. -/
def InPreorder (v : Json) (found : List (String × Json)) : Prop :=
  ∃ listing : List Located, listing.map (·.2) = found ∧ listing.Pairwise (·.1 < ·.1) ∧
    ∀ a m, (a, m) ∈ listing ↔ v.memberAt? a = some m

/-- **There is one list of all members in document order.** -/
theorem inPreorder_iff {v : Json} {found : List (String × Json)} :
    v.InPreorder found ↔ found = v.members := by
  constructor
  · rintro ⟨listing, rfl, ordered, located⟩
    have irrefl : Std.Irrefl fun l l' : Located => l.1 < l'.1 := ⟨fun l => List.lt_irrefl l.1⟩
    have asymm : Std.Antisymm fun l l' : Located => l.1 < l'.1 :=
      ⟨fun _ _ lt gt => absurd gt (List.lt_asymm lt)⟩
    -- in a strict order, the same entries are the same list
    have same : listing = v.located := ordered.eq_of_mem_iff (pairwise_located v) fun ⟨a, m⟩ =>
      (located a m).trans mem_located_iff.symm
    rw [same, map_located]
  · rintro rfl
    exact ⟨v.located, map_located v, pairwise_located v, fun _ _ => mem_located_iff⟩

/-- The members anywhere in a value are those of the objects that it leads down to. -/
theorem mem_members_iff {v : Json} {m : String × Json} :
    m ∈ v.members ↔ ∃ path ms, v.descend? path = some (.obj ms) ∧ m ∈ ms := by
  have at_address : m ∈ v.members ↔ ∃ a, v.memberAt? a = some m := by
    rw [← map_located, List.mem_map]
    exact ⟨fun ⟨⟨a, _⟩, there, same⟩ => ⟨a, mem_located_iff.1 (same ▸ there)⟩,
      fun ⟨a, there⟩ => ⟨(a, m), mem_located_iff.2 there, rfl⟩⟩
  rw [at_address]
  constructor
  · rintro ⟨a, there⟩
    obtain rfl | ⟨path, i, rfl⟩ := a.eq_nil_or_concat'
    · rw [memberAt?_nil] at there
      cases there
    · rw [memberAt?_append_singleton, Option.bind_eq_some_iff] at there
      obtain ⟨ms, object, there⟩ := there
      obtain ⟨u, reached, members⟩ := Option.bind_eq_some_iff.1 object
      cases u <;> cases members
      exact ⟨path, ms, reached, List.mem_of_getElem? there⟩
  · rintro ⟨path, ms, reached, there⟩
    obtain ⟨i, there⟩ := List.mem_iff_getElem?.1 there
    exact ⟨path ++ [i], by rw [memberAt?_append_singleton, reached]; exact there⟩

/-! ## Searching -/

variable (key : String)

mutual

/-- **A search finds the first member with a key.**  A miss inside one item or member goes on with
the next, as a list goes on behind what was appended. -/
theorem search_eq_find?_members : ∀ v : Json,
    v.search key = (v.members.find? (·.1 = key)).map (·.2)
  | .null | .bool _ | .num _ | .str _ => rfl
  | .arr items => searchItems_eq_find? items
  | .obj ms => searchMembers_eq_find? ms

theorem searchItems_eq_find? : ∀ items : List Json,
    searchItems key items = ((membersOfItems items).find? (·.1 = key)).map (·.2)
  | [] => rfl
  | item :: rest => by
    rw [searchItems, membersOfItems, List.find?_append, Option.map_or, Option.orElse_eq_or,
      search_eq_find?_members item, searchItems_eq_find? rest]

theorem searchMembers_eq_find? : ∀ ms : List (String × Json),
    searchMembers key ms = ((membersOfMembers ms).find? (·.1 = key)).map (·.2)
  | [] => rfl
  | (k, v) :: rest => by
    rw [searchMembers, membersOfMembers]
    by_cases this : k = key
    · rw [if_pos this, List.find?_cons, decide_eq_true this]
      rfl
    · rw [if_neg this, List.find?_cons, decide_eq_false this, List.find?_append, Option.map_or,
        Option.orElse_eq_or, search_eq_find?_members v, searchMembers_eq_find? rest]

end

/-- **A search for a key finds the value of the first member with that key in document order**, and
nothing exactly if no object anywhere in the value has such a member.  The list of all members in
document order is `Json.members`, and no other list. -/
theorem search_eq_first_in_preorder (v : Json) :
    (∀ found, v.InPreorder found ↔ found = v.members) ∧
      v.search key = (v.members.find? (·.1 = key)).map (·.2) ∧
      (v.search key = none ↔
        ∀ path ms, v.descend? path = some (.obj ms) → key ∉ Members.keys ms) := by
  refine ⟨fun _ => inPreorder_iff, search_eq_find?_members key v, ?_⟩
  rw [search_eq_find?_members, Option.map_eq_none_iff, List.find?_eq_none]
  constructor
  · intro missing path ms reached there
    obtain ⟨m, in_object, rfl⟩ := List.mem_map.1 there
    exact missing m (mem_members_iff.2 ⟨path, ms, reached, in_object⟩) (decide_eq_true rfl)
  · intro missing m there named
    obtain ⟨path, ms, reached, in_object⟩ := mem_members_iff.1 there
    exact missing path ms reached (List.mem_map.2 ⟨m, in_object, of_decide_eq_true named⟩)

/-- What is inside an earlier value comes before a later sibling of that value. -/
example : (obj [("a", obj [("key", str "inside")]), ("key", str "behind")]).search "key" =
    some (str "inside") := rfl

end Json
end ProxyFeed
