import ProxyFeed.Link.ParamSet
import ProxyFeed.Proofs.Json.ReadBack
import ProxyFeed.Proofs.Keyed
import ProxyFeed.Text.RoundTrip
import Mathlib.Data.List.Basic

/-!
# Parameter sets, seen through their keys

A parameter set is used as a map, so the lemmas here are about `ParamSet.get?`: what each operation
does to the value of a key, and what a written text says about it.

## What is here

* `ParamSet.get?_set`, `ParamSet.get?_removeAll`, … — the operations, one lemma each.
* `ParamSet.lookup_sorted` — sorting the entries does not change the value of a key.
* `ParamSet.get?_eq_of_query_eq` and `ParamSet.get?_eq_of_document_eq` — sets with the same text
  have the same values; a document also tells texts from integers.
-/

set_option autoImplicit false
namespace ProxyFeed

theorem utf8_injective {s t : String} (h : utf8 s = utf8 t) : s = t := by
  have decoded := congrArg Utf8.decode? h
  rw [utf8, utf8, Utf8.decode?_encode, Utf8.decode?_encode] at decoded
  exact String.toList_inj.1 (Option.some.inj decoded)

namespace ParamSet

/-- The value of the first entry with a key. -/
def lookup (key : String) (es : List (String × ParamValue)) : Option ParamValue :=
  (es.find? (·.1 = key)).map (·.2)

theorem lookup_cons (key : String) (e : String × ParamValue) (es : List (String × ParamValue)) :
    lookup key (e :: es) = if e.1 = key then some e.2 else lookup key es :=
  Keyed.get?_cons e es key

/-! ## Operations -/

/-- Setting a key puts it among the entries. -/
theorem entries_set (s : ParamSet) (key : String) (v : ParamValue) :
    (s.set key v).entries = Keyed.put s.entries key v :=
  apply_ite entries _ _ _

@[simp] theorem get?_empty (key : String) : empty.get? key = none := rfl

theorem get?_set (s : ParamSet) (key : String) (v : ParamValue) (key' : String) :
    (s.set key v).get? key' = if key' = key then some v else s.get? key' := by
  show Keyed.get? (s.set key v).entries key' = if key' = key then some v else s.get? key'
  rw [entries_set]
  exact Keyed.get?_put s.entries key v key'

@[simp] theorem get?_set_self (s : ParamSet) (key : String) (v : ParamValue) :
    (s.set key v).get? key = some v := by
  rw [get?_set, if_pos rfl]

theorem get?_set_of_ne {key key' : String} (h : key' ≠ key) (s : ParamSet) (v : ParamValue) :
    (s.set key v).get? key' = s.get? key' := by
  rw [get?_set, if_neg h]

@[simp] theorem get?_setText_self (s : ParamSet) (key v : String) :
    (s.setText key v).get? key = some (.text v) :=
  get?_set_self s key _

theorem get?_setText_of_ne {key key' : String} (h : key' ≠ key) (s : ParamSet) (v : String) :
    (s.setText key v).get? key' = s.get? key' :=
  get?_set_of_ne h s _

theorem get?_setText?_of_ne {key key' : String} (h : key' ≠ key) (s : ParamSet)
    (v : Option String) :
    (s.setText? key v).get? key' = s.get? key' := by
  cases v with
  | none => rfl
  | some v => exact get?_setText_of_ne h s v

theorem get?_setText?_self (s : ParamSet) (key : String) (v : Option String) :
    (s.setText? key v).get? key = (v.map ParamValue.text).or (s.get? key) := by
  cases v with
  | none => rfl
  | some v => exact get?_setText_self s key v

theorem get?_setText (s : ParamSet) (key v key' : String) :
    (s.setText key v).get? key' = if key' = key then some (.text v) else s.get? key' :=
  get?_set s key _ key'

theorem get?_setText? (s : ParamSet) (key : String) (v : Option String) (key' : String) :
    (s.setText? key v).get? key' =
      if key' = key then (v.map ParamValue.text).or (s.get? key') else s.get? key' := by
  split
  · next same => rw [same, get?_setText?_self]
  · next other => rw [get?_setText?_of_ne other]

theorem get?_removeAll (s : ParamSet) (keys : List String) (key : String) :
    (s.removeAll keys).get? key = if key ∈ keys then none else s.get? key := by
  refine (Keyed.get?_filter (fun k => !keys.contains k) s.entries key).trans ?_
  by_cases removed : key ∈ keys
  · simp [removed]
  · simp only [List.contains_eq_mem, removed, decide_false, Bool.not_false, if_true, if_false]
    rfl

theorem get?_removeTlsIdentity {key : String} (h : key ∉ tlsIdentityKeys) (s : ParamSet) :
    s.removeTlsIdentity.get? key = s.get? key := by
  rw [removeTlsIdentity, get?_removeAll, if_neg h]

/-! ## Sorted entries -/

theorem keyLe_refl (key : String) : keyLe key key = true := by simp [keyLe]

theorem lookup_insertEntry (key : String) (e : String × ParamValue)
    (es : List (String × ParamValue)) :
    lookup key (insertEntry e es) = lookup key (e :: es) := by
  induction es with
  | nil => rfl
  | cons x xs ih =>
    rw [insertEntry]
    split
    · rfl
    · next h =>
      rw [lookup_cons, ih, lookup_cons, lookup_cons, lookup_cons]
      by_cases he : e.1 = key
      · have hx : x.1 ≠ key := by
          rintro rfl
          exact h (he ▸ keyLe_refl _)
        simp [he, hx]
      · simp [he]

/-- **Sorting keeps the value of every key.** -/
theorem lookup_sorted (s : ParamSet) (key : String) : lookup key s.sorted = s.get? key := by
  rw [sorted]
  show _ = lookup key s.entries
  induction s.entries with
  | nil => rfl
  | cons e es ih => rw [List.foldr_cons, lookup_insertEntry, lookup_cons, lookup_cons, ih]

/-! ## Texts -/

theorem lookup_map_snd {α : Type} (f : ParamValue → α) (key : String)
    (es : List (String × ParamValue)) :
    ((es.map fun e => (e.1, f e.2)).find? (·.1 = key)).map (·.2) = (lookup key es).map f :=
  Keyed.get?_map Function.injective_id f es key

/-- **Sets with the same query agree on the text of every value.** -/
theorem get?_eq_of_query_eq {s t : ParamSet} (h : s.query = t.query) (key : String) :
    (s.get? key).map ParamValue.queryText = (t.get? key).map ParamValue.queryText := by
  have pairs : s.sorted.map (fun e => (e.1, e.2.queryText)) =
      t.sorted.map fun e => (e.1, e.2.queryText) := by
    have decoded := congrArg Form.decode (String.ofList_injective h)
    rw [Form.decode_encode, Form.decode_encode] at decoded
    refine (List.map_injective_iff.2 ?_) decoded
    intro a b hab
    exact Prod.ext (utf8_injective (Prod.mk.inj hab).1) (utf8_injective (Prod.mk.inj hab).2)
  rw [← lookup_sorted, ← lookup_sorted, ← lookup_map_snd, ← lookup_map_snd, pairs]

/-- A document holds texts and integers of 64 bits, so it can be read back. -/
theorem integral_toJson (s : ParamSet) : s.toJson.Integral := by
  show Json.IntegralMembers (s.sorted.map fun e => (e.1, e.2.toJson))
  induction s.sorted with
  | nil => trivial
  | cons e es ih =>
    refine ⟨?_, ih⟩
    cases e.2 with
    | text v => trivial
    | int n => exact Json.Number.fits_toInt n

theorem raw_toJson_injective {v w : ParamValue} (h : v.toJson.raw = w.toJson.raw) : v = w := by
  cases v with
  | text a =>
    cases w with
    | text b =>
      obtain ⟨⟩ := Option.some.inj (RawJson.str.inj h)
      rfl
    | int n => exact absurd h (by simp [ParamValue.toJson, Json.ofInt, Json.raw])
  | int m =>
    cases w with
    | text b => exact absurd h (by simp [ParamValue.toJson, Json.ofInt, Json.raw])
    | int n =>
      have e := Json.Number.int.inj (Option.some.inj (RawJson.num.inj h))
      rw [Int64.toInt_inj.1 e]

theorem rawMembers_toJson (es : List (String × ParamValue)) :
    Json.rawMembers (es.map fun e => (e.1, e.2.toJson)) =
      es.map fun e => (some e.1, e.2.toJson.raw) := by
  induction es with
  | nil => rfl
  | cons e es ih => rw [List.map_cons, Json.rawMembers, ih, List.map_cons]

/-- **Sets with the same document agree on every value.** -/
theorem get?_eq_of_document_eq {s t : ParamSet} (h : s.document = t.document) (key : String) :
    s.get? key = t.get? key := by
  have read := congrArg RawJson.parse? h
  rw [document, document, RawJson.parse?_pretty s.integral_toJson,
    RawJson.parse?_pretty t.integral_toJson] at read
  have members := RawJson.obj.inj (Option.some.inj read)
  rw [rawMembers_toJson, rawMembers_toJson] at members
  have sorted_eq : s.sorted = t.sorted := by
    refine List.map_injective_iff.2 ?_ members
    intro e f hef
    obtain ⟨hk, hv⟩ := Prod.mk.inj hef
    exact Prod.ext (Option.some.inj hk) (raw_toJson_injective hv)
  rw [← lookup_sorted, ← lookup_sorted, sorted_eq]

end ParamSet
end ProxyFeed
