import Mathlib.Data.List.Basic
import Mathlib.Data.List.Nodup
import Mathlib.Data.List.Perm.Lattice

/-!
# Lists of entries as maps

The members of an object, the parameters of a link and the entries of a table are all lists of keys
with values.  A key has the value of its first entry; it is given another value in place, or at the
end if it is new.  What follows from that is said here once, for keys and values of any type.

## What is here

* `Keyed.get?`, `Keyed.replace` and `Keyed.put` — the operations, which each kind of list has under
  a name of its own.
* `Keyed.get?_eq_some_iff` — under different keys, a lookup is a membership.
* `Keyed.get?_put`, `Keyed.keys_put` and `Keyed.mem_put` — what putting a key changes.
* `Keyed.get?_filter` and `Keyed.get?_map` — entries removed by their keys, and entries renamed.
* `Keyed.get?_of_perm` and `Keyed.perm_of_get?` — entries that are the same map.
-/

set_option autoImplicit false
namespace ProxyFeed
namespace Keyed

variable {κ α : Type} [DecidableEq κ] {es es' : List (κ × α)} {key : κ} {v : α}

/-- The value of the first entry with a key. -/
def get? (es : List (κ × α)) (key : κ) : Option α := (es.find? (·.1 = key)).map (·.2)

/-- Another entry in the place of each one with a key. -/
def replace (es : List (κ × α)) (key : κ) (new : κ × α) : List (κ × α) :=
  es.map fun e => if e.1 = key then new else e

/-- Gives a key a value: in place if the key is there, at the end if it is not. -/
def put (es : List (κ × α)) (key : κ) (v : α) : List (κ × α) :=
  if es.any (·.1 = key) then replace es key (key, v) else es ++ [(key, v)]

/-! ## Lookups -/

theorem get?_cons (e : κ × α) (es : List (κ × α)) (key : κ) :
    get? (e :: es) key = if e.1 = key then some e.2 else get? es key := by
  by_cases h : e.1 = key <;> simp [get?, h]

theorem get?_append (es fs : List (κ × α)) (key : κ) :
    get? (es ++ fs) key = (get? es key).or (get? fs key) := by
  rw [get?, List.find?_append, Option.map_or]
  rfl

theorem get?_eq_none_iff : get? es key = none ↔ key ∉ es.map Prod.fst := by
  simp only [get?, Option.map_eq_none_iff, List.find?_eq_none, decide_eq_true_eq, List.mem_map,
    not_exists, not_and]

theorem mem_of_get? (found : get? es key = some v) : (key, v) ∈ es := by
  obtain ⟨e, first, rfl⟩ := Option.map_eq_some_iff.1 found
  have same : e.1 = key := by simpa using List.find?_some first
  exact same ▸ List.mem_of_find?_eq_some first

/-- **Under different keys, a lookup is a membership.** -/
theorem get?_eq_some_iff (apart : (es.map Prod.fst).Nodup) :
    get? es key = some v ↔ (key, v) ∈ es := by
  refine ⟨mem_of_get?, fun there => ?_⟩
  induction es with
  | nil => cases there
  | cons e es ih =>
    obtain ⟨new, rest⟩ := List.nodup_cons.1 apart
    rw [get?_cons]
    rcases List.mem_cons.1 there with rfl | later
    · exact if_pos rfl
    · have other : e.1 ≠ key := fun same =>
        new (same ▸ List.mem_map_of_mem (f := Prod.fst) later)
      rw [if_neg other]
      exact ih rest later

/-- Entries are removed by their keys: each key keeps its value or loses it. -/
theorem get?_filter (keep : κ → Bool) (es : List (κ × α)) (key : κ) :
    get? (es.filter fun e => keep e.1) key = if keep key then get? es key else none := by
  induction es with
  | nil => simp [get?]
  | cons e es ih =>
    rw [List.filter_cons, get?_cons]
    by_cases same : e.1 = key
    · subst same
      cases kept : keep e.1 with
      | true => simp [get?_cons]
      | false => simpa [kept] using ih
    · rw [if_neg same, ← ih]
      split
      · rw [get?_cons, if_neg same]
      · rfl

/-- Under other names for the keys, and with other values, each key has the other value. -/
theorem get?_map {κ' β : Type} [DecidableEq κ'] {g : κ → κ'} (apart : Function.Injective g)
    (f : α → β) (es : List (κ × α)) (key : κ) :
    get? (es.map fun e => (g e.1, f e.2)) (g key) = (get? es key).map f := by
  induction es with
  | nil => rfl
  | cons e es ih =>
    rw [List.map_cons, get?_cons, get?_cons, ih]
    by_cases same : e.1 = key
    · simp [same]
    · rw [if_neg (apart.ne same), if_neg same]

/-! ## Order -/

/-- Entries in another order are the same map. -/
theorem get?_of_perm (apart : (es'.map Prod.fst).Nodup) (same : es.Perm es') (key : κ) :
    get? es key = get? es' key := by
  have apart' : (es.map Prod.fst).Nodup := (same.map Prod.fst).nodup_iff.2 apart
  refine Option.ext fun v => ?_
  rw [get?_eq_some_iff apart', get?_eq_some_iff apart, same.mem_iff]

/-- The same map has the same entries, though perhaps in another order. -/
theorem perm_of_get? (apart : (es.map Prod.fst).Nodup) (apart' : (es'.map Prod.fst).Nodup)
    (same : ∀ key, get? es key = get? es' key) : es.Perm es' := by
  refine (List.perm_ext_iff_of_nodup apart.of_map apart'.of_map).2 fun ⟨key, v⟩ => ?_
  rw [← get?_eq_some_iff apart, ← get?_eq_some_iff apart', same key]

/-! ## Replacing entries -/

theorem any_iff : es.any (·.1 = key) = true ↔ key ∈ es.map Prod.fst := by simp

/-- Nothing is replaced if the key is not there. -/
theorem replace_of_not_mem (absent : key ∉ es.map Prod.fst) (new : κ × α) :
    replace es key new = es := by
  refine (List.map_congr_left fun e there => if_neg fun same => ?_).trans (List.map_id es)
  exact absent (same ▸ List.mem_map_of_mem (f := Prod.fst) there)

/-- Another value under the same key changes no key. -/
theorem keys_replace (es : List (κ × α)) (key : κ) (v : α) :
    (replace es key (key, v)).map Prod.fst = es.map Prod.fst := by
  rw [replace, List.map_map]
  refine List.map_congr_left fun e _ => ?_
  rw [Function.comp_apply]
  split
  · next same => exact same.symm
  · rfl

theorem get?_replace (es : List (κ × α)) (key : κ) (v : α) (k : κ) :
    get? (replace es key (key, v)) k =
      if k = key then (get? es key).map fun _ => v else get? es k := by
  induction es with
  | nil => simp [get?, replace]
  | cons e es ih =>
    rw [replace, List.map_cons, ← replace, get?_cons, get?_cons, get?_cons, ih]
    by_cases he : e.1 = key
    · by_cases hk : k = key
      · simp [he, hk]
      · simp [he, hk, Ne.symm hk]
    · by_cases hk : k = key
      · subst hk; simp [he]
      · simp [he, hk]

/-! ## Putting a key -/

theorem put_of_mem (there : key ∈ es.map Prod.fst) (v : α) :
    put es key v = replace es key (key, v) :=
  if_pos (any_iff.2 there)

theorem put_of_not_mem (new : key ∉ es.map Prod.fst) (v : α) : put es key v = es ++ [(key, v)] :=
  if_neg fun there => new (any_iff.1 there)

theorem keys_put (es : List (κ × α)) (key : κ) (v : α) :
    (put es key v).map Prod.fst =
      if key ∈ es.map Prod.fst then es.map Prod.fst else es.map Prod.fst ++ [key] := by
  split
  · next there => rw [put_of_mem there, keys_replace]
  · next new => rw [put_of_not_mem new, List.map_append, List.map_singleton]

theorem nodup_keys_put (apart : (es.map Prod.fst).Nodup) (key : κ) (v : α) :
    ((put es key v).map Prod.fst).Nodup := by
  rw [keys_put]
  split
  · exact apart
  · next new => exact List.nodup_append_comm.1 (List.nodup_cons.2 ⟨new, apart⟩)

/-- **Putting a key changes its value alone.** -/
theorem get?_put (es : List (κ × α)) (key : κ) (v : α) (k : κ) :
    get? (put es key v) k = if k = key then some v else get? es k := by
  by_cases there : key ∈ es.map Prod.fst
  · obtain ⟨w, found⟩ : ∃ w, get? es key = some w :=
      Option.ne_none_iff_exists'.1 fun none => get?_eq_none_iff.1 none there
    rw [put_of_mem there, get?_replace, found, Option.map_some]
  · rw [put_of_not_mem there, get?_append, get?_cons]
    by_cases hk : k = key
    · rw [hk, get?_eq_none_iff.2 there, if_pos rfl, if_pos rfl]
      rfl
    · rw [if_neg (Ne.symm hk), if_neg hk]
      exact Option.or_none

theorem mem_put {k : κ} {w : α} :
    (k, w) ∈ put es key v ↔ (k = key ∧ w = v) ∨ (k ≠ key ∧ (k, w) ∈ es) := by
  by_cases present : key ∈ es.map Prod.fst
  · rw [put_of_mem present, replace, List.mem_map]
    constructor
    · rintro ⟨e, there, made⟩
      split at made
      · obtain ⟨rfl, rfl⟩ := Prod.mk.inj made
        exact .inl ⟨rfl, rfl⟩
      · next other =>
        obtain rfl := made
        exact .inr ⟨other, there⟩
    · rintro (⟨rfl, rfl⟩ | ⟨other, there⟩)
      · obtain ⟨e, there, same⟩ := List.mem_map.1 present
        exact ⟨e, there, if_pos same⟩
      · exact ⟨(k, w), there, if_neg other⟩
  · rw [put_of_not_mem present, List.mem_append, List.mem_singleton, Prod.mk.injEq, or_comm]
    refine or_congr_right (iff_and_self.2 fun there same => present ?_)
    exact same ▸ List.mem_map_of_mem (f := Prod.fst) there

/-- Putting the value that is there changes nothing. -/
theorem put_eq_self (apart : (es.map Prod.fst).Nodup) (found : get? es key = some v) :
    put es key v = es := by
  have there : key ∈ es.map Prod.fst := List.mem_map_of_mem (f := Prod.fst) (mem_of_get? found)
  rw [put_of_mem there]
  refine (List.map_congr_left fun e he => ?_).trans (List.map_id es)
  split
  · next same =>
    have value : get? es key = some e.2 := (get?_eq_some_iff apart).2 (same ▸ he)
    rw [Option.some.inj (found.symm.trans value), ← same]
    rfl
  · rfl

end Keyed
end ProxyFeed
