import ProxyFeed.Proofs.Json.Value

/-!
# Members of an object as a map

As long as its keys differ, an object is a map: what it says under a key is a matter of membership,
and the order of the members is not.  The operations keep the keys apart, so removing a member may
well move another one.

## What is here

* `Members.get?_set` and `Members.get?_erase` — the operations, as they act on the map.
* `Members.mem_set` and `Members.erase_perm` — the members afterwards, up to order.
* `Members.get?_of_perm` and `Members.perm_of_get?` — members that are the same map.
* `Json.everyObjectMembers_iff`, `Json.integralMembers_iff` and `Json.depthOfMembers_le_iff` —
  conditions on the values of members, one by one.
* `Json.EveryObject.of_get?`, `Json.Integral.of_get?` and `Json.depth_lt_of_get?` — the same for one
  member.
-/

set_option autoImplicit false
namespace ProxyFeed

namespace Members

variable {ms : Members}

theorem get?_cons (m : String × Json) (ms : Members) (key : String) :
    get? (m :: ms) key = if m.1 = key then some m.2 else ms.get? key :=
  Keyed.get?_cons m ms key

/-- Under different keys, a lookup is a membership. -/
theorem get?_eq_some_iff (h : ms.keys.Nodup) {key : String} {v : Json} :
    ms.get? key = some v ↔ (key, v) ∈ ms :=
  Keyed.get?_eq_some_iff h

theorem mem_of_get? {key : String} {v : Json} (found : ms.get? key = some v) : (key, v) ∈ ms :=
  Keyed.mem_of_get? found

theorem get?_eq_none_iff {key : String} : ms.get? key = none ↔ key ∉ ms.keys :=
  Keyed.get?_eq_none_iff

theorem get?_append_of_not_mem {extra : Members} {key : String} (absent : key ∉ extra.keys) :
    get? (ms ++ extra) key = ms.get? key := by
  have missing : extra.get? key = none := get?_eq_none_iff.2 absent
  exact (Keyed.get?_append ms extra key).trans ((congrArg _ missing).trans Option.or_none)

/-- Members in another order are the same map. -/
theorem get?_of_perm {ms' : Members} (apart : ms'.keys.Nodup) (same : ms.Perm ms')
    (key : String) : ms.get? key = ms'.get? key :=
  Keyed.get?_of_perm apart same key

/-- The same map has the same members, though perhaps in another order. -/
theorem perm_of_get? {ms' : Members} (apart : ms.keys.Nodup) (apart' : ms'.keys.Nodup)
    (same : ∀ key, ms.get? key = ms'.get? key) : ms.Perm ms' :=
  Keyed.perm_of_get? apart apart' same

/-! ## Setting -/

theorem mem_set {key k : String} {v w : Json} :
    (k, w) ∈ ms.set key v ↔ (k = key ∧ w = v) ∨ (k ≠ key ∧ (k, w) ∈ ms) :=
  Keyed.mem_put

theorem keys_set (ms : Members) (key : String) (v : Json) :
    (ms.set key v).keys = if key ∈ ms.keys then ms.keys else ms.keys ++ [key] :=
  Keyed.keys_put ms key v

theorem nodup_keys_set (h : ms.keys.Nodup) (key : String) (v : Json) :
    (ms.set key v).keys.Nodup :=
  Keyed.nodup_keys_put h key v

/-- **Setting a key changes what is said under that key alone.** -/
theorem get?_set (ms : Members) (key : String) (v : Json) (k : String) :
    (ms.set key v).get? k = if k = key then some v else ms.get? k :=
  Keyed.get?_put ms key v k

/-- Setting what is there changes nothing. -/
theorem set_eq_self (apart : ms.keys.Nodup) {key : String} {v : Json}
    (found : ms.get? key = some v) : ms.set key v = ms :=
  Keyed.put_eq_self apart found

/-! ## Removing -/

/-- Removing what is not there changes nothing. -/
theorem erase_eq_self {key : String} (missing : ms.get? key = none) : ms.erase key = ms := by
  have absent : ¬ms.any (·.1 = key) = true := by
    simpa [keys] using get?_eq_none_iff.1 missing
  rw [erase, if_neg absent]

theorem filter_eq_self_of_not_mem {key : String} (absent : key ∉ ms.keys) :
    ms.filter (fun m => m.1 ≠ key) = ms := by
  refine List.filter_eq_self.2 fun m there => decide_eq_true fun same => ?_
  exact absent (same ▸ List.mem_map_of_mem (f := Prod.fst) there)

/-- Another member in the place of one. -/
theorem map_replace_perm (h : ms.keys.Nodup) {key : String} (there : key ∈ ms.keys)
    (new : String × Json) :
    (ms.map fun m => if m.1 = key then new else m).Perm
      ((ms.filter fun m => m.1 ≠ key) ++ [new]) := by
  induction ms with
  | nil => cases there
  | cons m ms ih =>
    obtain ⟨first, rest⟩ := List.nodup_cons.1 h
    by_cases same : m.1 = key
    · have absent : key ∉ keys ms := same ▸ first
      have others : ms.map (fun m => if m.1 = key then new else m) = ms :=
        Keyed.replace_of_not_mem absent new
      rw [List.map_cons, if_pos same, others, List.filter_cons_of_neg (by simpa using same),
        filter_eq_self_of_not_mem absent]
      exact (List.perm_append_singleton new ms).symm
    · have later : key ∈ keys ms := by
        rcases List.mem_cons.1 there with here | later
        · exact absurd here.symm same
        · exact later
      rw [List.map_cons, if_neg same, List.filter_cons_of_pos (by simpa using same)]
      exact (ih rest later).cons m

/-- **Removing a key leaves the other members**, the last of them in its place. -/
theorem erase_perm (h : ms.keys.Nodup) (key : String) :
    (ms.erase key).Perm (ms.filter fun m => m.1 ≠ key) := by
  rw [erase]
  split
  · next present =>
    obtain ⟨front, last, rfl⟩ : ∃ front last, ms = front ++ [last] := by
      rcases List.eq_nil_or_concat ms with rfl | ⟨front, last, rfl⟩
      · cases present
      · exact ⟨front, last, List.concat_eq_append⟩
    have there : key ∈ keys front ∨ last.1 = key := by simpa [keys] using present
    rw [keys, List.map_append, List.map_singleton, List.nodup_append] at h
    obtain ⟨nodup, -, apart⟩ := h
    rw [List.getLast?_concat, List.dropLast_concat, List.filter_append]
    dsimp only
    split
    · next same =>
      have absent : key ∉ keys front := fun h =>
        apart key h last.1 (List.mem_singleton_self _) same.symm
      rw [filter_eq_self_of_not_mem absent, List.filter_cons_of_neg (by simpa using same),
        List.filter_nil, List.append_nil]
    · next other =>
      rw [List.filter_cons_of_pos (by simpa using other), List.filter_nil]
      exact map_replace_perm nodup (there.resolve_right other) last
  · next absent =>
    have gone : key ∉ ms.keys := by simpa [keys] using absent
    rw [filter_eq_self_of_not_mem gone]

theorem mem_erase (h : ms.keys.Nodup) {key : String} {m : String × Json} :
    m ∈ ms.erase key ↔ m ∈ ms ∧ m.1 ≠ key := by
  rw [(erase_perm h key).mem_iff, List.mem_filter, decide_eq_true_eq]

theorem nodup_keys_erase (h : ms.keys.Nodup) (key : String) : (ms.erase key).keys.Nodup := by
  have left : (keys (ms.filter fun m => m.1 ≠ key)).Nodup := h.sublist (List.filter_sublist.map _)
  exact ((erase_perm h key).map Prod.fst).nodup_iff.2 left

/-- **Removing a key changes what is said under that key alone.** -/
theorem get?_erase (h : ms.keys.Nodup) (key k : String) :
    (ms.erase key).get? k = if k = key then none else ms.get? k := by
  refine Option.ext fun w => ?_
  rw [get?_eq_some_iff (nodup_keys_erase h key), mem_erase h]
  split
  · next same => simp [same]
  · next other => simp [other, get?_eq_some_iff h]

end Members

/-! ## Conditions on the values of members -/

namespace Json

theorem everyObjectItems_iff {p : Members → Prop} {items : List Json} :
    EveryObjectItems p items ↔ ∀ item ∈ items, item.EveryObject p := by
  induction items with
  | nil => exact ⟨fun _ _ h => absurd h List.not_mem_nil, fun _ => trivial⟩
  | cons item items ih => rw [EveryObjectItems, ih, List.forall_mem_cons]

theorem everyObjectMembers_iff {p : Members → Prop} {ms : Members} :
    EveryObjectMembers p ms ↔ ∀ m ∈ ms, m.2.EveryObject p := by
  induction ms with
  | nil => exact ⟨fun _ _ h => absurd h List.not_mem_nil, fun _ => trivial⟩
  | cons m ms ih => rw [EveryObjectMembers, ih, List.forall_mem_cons]

theorem integralMembers_iff {ms : Members} : IntegralMembers ms ↔ ∀ m ∈ ms, m.2.Integral := by
  induction ms with
  | nil => exact ⟨fun _ _ h => absurd h List.not_mem_nil, fun _ => trivial⟩
  | cons m ms ih => rw [IntegralMembers, ih, List.forall_mem_cons]

theorem depthOfItems_le_iff {items : List Json} {n : Nat} :
    depthOfItems items ≤ n ↔ ∀ item ∈ items, item.depth ≤ n := by
  induction items with
  | nil => exact ⟨fun _ _ h => absurd h List.not_mem_nil, fun _ => Nat.zero_le _⟩
  | cons item items ih => rw [depthOfItems, Nat.max_le, ih, List.forall_mem_cons]

theorem depthOfMembers_le_iff {ms : Members} {n : Nat} :
    depthOfMembers ms ≤ n ↔ ∀ m ∈ ms, m.2.depth ≤ n := by
  induction ms with
  | nil => exact ⟨fun _ _ h => absurd h List.not_mem_nil, fun _ => Nat.zero_le _⟩
  | cons m ms ih => rw [depthOfMembers, Nat.max_le, ih, List.forall_mem_cons]

/-! ## Values of members -/

variable {v w : Json} {key : String}

theorem exists_mem_of_get? (found : v.get? key = some w) : ∃ ms, v = .obj ms ∧ (key, w) ∈ ms := by
  cases v with
  | obj ms => exact ⟨ms, rfl, Members.mem_of_get? found⟩
  | null | bool b | num n | str s | arr items => cases found

theorem EveryObject.of_get? {p : Members → Prop} (h : v.EveryObject p)
    (found : v.get? key = some w) : w.EveryObject p := by
  obtain ⟨ms, rfl, there⟩ := exists_mem_of_get? found
  exact everyObjectMembers_iff.1 h.2 _ there

theorem EveryObject.of_mem {p : Members → Prop} {items : List Json}
    (h : (Json.arr items).EveryObject p) : ∀ item ∈ items, item.EveryObject p :=
  everyObjectItems_iff.1 h

theorem Integral.of_get? (h : v.Integral) (found : v.get? key = some w) : w.Integral := by
  obtain ⟨ms, rfl, there⟩ := exists_mem_of_get? found
  exact integralMembers_iff.1 h _ there

theorem depth_lt_of_get? (found : v.get? key = some w) : w.depth < v.depth := by
  obtain ⟨ms, rfl, there⟩ := exists_mem_of_get? found
  exact Nat.lt_succ_of_le (depthOfMembers_le_iff.1 le_rfl _ there)

end Json
end ProxyFeed
