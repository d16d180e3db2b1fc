import ProxyFeed.Json.Record
import ProxyFeed.Proofs.Json.Parsed
import Mathlib.Data.List.Nodup

/-!
# Records in a value

Records are read from trees as they were written, where a key may stand twice and a field may be a
member or the item in its place.  In the tree of a value both are easily told, so what a reader of
records takes from a value can be said without the tree.

## What is here

* `Json.HasFields` and `Json.field?` — what has the declared fields, and what stands in one of them.
* `RawJson.fields?_of_value` — the reader of records finds them; `RawJson.fields?_raw` is the case
  of an object whose keys differ.
* `RawJson.text?_eq_some_iff`, `RawJson.uint16?_eq_some_iff`, `RawJson.required_eq_some_iff` and
  `RawJson.orElse_text?_eq_some_iff` — what each reader of a field accepts.
-/

set_option autoImplicit false
namespace ProxyFeed

namespace Json

/-- Does a value have the declared fields?  An object does if none of them stands twice, and an
array if it has no items beyond them. -/
def HasFields (names : List String) : Json → Prop
  | .obj ms => ∀ name ∈ names, (Members.keys ms).count name ≤ 1
  | .arr items => items.length ≤ names.length
  | _ => False

instance (names : List String) : ∀ v : Json, Decidable (v.HasFields names)
  | .obj ms => inferInstanceAs (Decidable (∀ name ∈ names, (Members.keys ms).count name ≤ 1))
  | .arr items => inferInstanceAs (Decidable (items.length ≤ names.length))
  | .null => .isFalse id
  | .bool _ => .isFalse id
  | .num _ => .isFalse id
  | .str _ => .isFalse id

/-- What stands in a declared field: the member with its name, or the item in its place. -/
def field? (names : List String) (v : Json) (name : String) : Option Json :=
  match v with
  | .obj ms => Members.get? ms name
  | .arr items => items[names.idxOf name]?
  | _ => none

theorem text?_eq_some_iff {v : Json} {key s : String} :
    v.text? key = some s ↔ v.get? key = some (.str s) := by
  rw [text?, Option.bind_eq_some_iff]
  constructor
  · rintro ⟨w, there, string⟩
    cases w with
    | str t => rwa [← Option.some.inj string]
    | null | bool | num | arr | obj => cases string
  · intro there
    exact ⟨_, there, rfl⟩

end Json

namespace RawJson

open Json (rawItems rawMembers)

/-! ## The fields of a record -/

section Pairs

variable {α : Type} (f : α → RawJson) (ms : List (String × α))

theorem member?_map (key : String) :
    member? (ms.map fun m => (some m.1, f m.2)) key =
      ((ms.find? (·.1 = key)).map (·.2)).map f :=
  Keyed.get?_map (fun _ _ => Option.some.inj) f ms key

theorem countP_map (key : String) :
    (ms.map fun m => (some m.1, f m.2)).countP (·.1 = some key) = (ms.map Prod.fst).count key := by
  induction ms with
  | nil => rfl
  | cons m ms ih =>
    rw [List.map_cons, List.countP_cons, ih]
    simp [List.count_cons]

/-- The fields of an object are found by their names, whatever trees its values stand for. -/
theorem fields?_map (names : List String) :
    (RawJson.obj (ms.map fun m => (some m.1, f m.2))).fields? names =
      if ∀ name ∈ names, (ms.map Prod.fst).count name ≤ 1 then
        some (names.map fun name => ((ms.find? (·.1 = name)).map (·.2)).map f)
      else none := by
  have texts : (ms.map fun m => (some m.1, f m.2)).all (·.1.isSome) = true := by simp
  have once : (names.all fun name =>
      (ms.map fun m => (some m.1, f m.2)).countP (·.1 = some name) ≤ 1) = true ↔
        ∀ name ∈ names, (ms.map Prod.fst).count name ≤ 1 := by
    simp only [List.all_eq_true, decide_eq_true_eq, countP_map]
  have found : names.map (member? (ms.map fun m => (some m.1, f m.2))) =
      names.map fun name => ((ms.find? (·.1 = name)).map (·.2)).map f :=
    List.map_congr_left fun name _ => member?_map f ms name
  rw [fields?, texts, Bool.true_and, found]
  simp only [once]

end Pairs

/-- The items of an array stand for the first fields; the others are absent. -/
theorem items_eq_map {α : Type} {items : List α} {names : List String} (nodup : names.Nodup)
    (short : items.length ≤ names.length) :
    items.map some ++ List.replicate (names.length - items.length) none =
      names.map fun name => items[names.idxOf name]? := by
  refine List.ext_getElem (by simp [short]) fun i h _ => ?_
  have lt : i < names.length := by simpa [short] using h
  rw [List.getElem_map, nodup.idxOf_getElem, List.getElem_append]
  split
  · next there =>
    rw [List.getElem_map, List.getElem?_eq_getElem]
  · next absent =>
    rw [List.getElem_replicate, List.getElem?_eq_none]
    simpa using absent

/-- **The reader of records finds the declared fields of a value**, if it has them. -/
theorem fields?_of_value {names : List String} (nodup : names.Nodup) (v : Json) :
    v.raw.fields? names =
      if v.HasFields names then some (names.map fun name => (v.field? names name).map Json.raw)
      else none := by
  cases v with
  | obj ms =>
    rw [Json.raw, rawMembers_eq_map]
    exact fields?_map Json.raw ms names
  | arr items =>
    rw [Json.raw, fields?, rawItems_eq_map, List.length_map]
    by_cases short : items.length ≤ names.length
    · have has : (Json.arr items).HasFields names := short
      have short' : (items.map Json.raw).length ≤ names.length := by simpa using short
      have fields := items_eq_map nodup short'
      rw [List.length_map] at fields
      rw [if_pos short, if_pos has, fields]
      simp only [List.getElem?_map]
      rfl
    · have lacks : ¬ (Json.arr items).HasFields names := short
      rw [if_neg short, if_neg lacks]
  | null | bool | num | str => rfl

theorem fields?_raw {ms : Members} (distinct : ms.keys.Nodup) (names : List String) :
    (Json.obj ms).raw.fields? names =
      some (names.map fun name => ((Json.obj ms).get? name).map Json.raw) := by
  have once : (Json.obj ms).HasFields names :=
    fun name _ => List.nodup_iff_count_le_one.1 distinct name
  rw [Json.raw, rawMembers_eq_map, fields?_map]
  exact if_pos once

/-! ## One field -/

theorem text?_eq_some_iff {v : Json} {s : String} : v.raw.text? = some s ↔ v = .str s := by
  cases v <;> simp [Json.raw, text?]

theorem uint16?_eq_some_iff {v : Json} {n : UInt16} :
    v.raw.uint16? = some n ↔ v = .ofInt n.toNat := by
  have small := n.toNat_lt
  cases v with
  | num number =>
    cases number with
    | int m =>
      rw [Json.raw, uint16?, intBetween?, Json.ofInt]
      split
      · next bounds =>
        rw [Option.map_some, Option.some.injEq, Json.num.injEq, Json.Number.int.injEq,
          ← UInt16.toNat_inj, UInt16.toNat_ofNat']
        omega
      · next out =>
        rw [Option.map_none, Json.num.injEq, Json.Number.int.injEq]
        refine iff_of_false (by simp) fun same => out ?_
        omega
    | float negative magnitude => simp [Json.raw, uint16?, intBetween?, Json.ofInt]
  | null | bool | str | arr | obj => simp [Json.raw, uint16?, intBetween?, Json.ofInt]

variable {field : Option Json}

theorem required_eq_some_iff {α : Type} {read : RawJson → Option α} {a : α} :
    required read (field.map Json.raw) = some a ↔ ∃ v, field = some v ∧ read v.raw = some a := by
  rw [required, Option.bind_map, Option.bind_eq_some_iff]
  rfl

/-- A text that may be absent reads as the string in its field, or as the empty text. -/
theorem orElse_text?_eq_some_iff {s : String} :
    orElse "" text? (field.map Json.raw) = some s ↔
      field = none ∧ s = "" ∨ field = some (.str s) := by
  cases field with
  | none => simp [orElse, eq_comm]
  | some v => simp [orElse, text?_eq_some_iff]

theorem exists_orElse_text? (h : ∀ w, field = some w → ∃ s, w = .str s) :
    ∃ s, orElse "" text? (field.map Json.raw) = some s := by
  cases field with
  | none => exact ⟨"", rfl⟩
  | some w =>
    obtain ⟨s, rfl⟩ := h w rfl
    exact ⟨s, rfl⟩

end RawJson
end ProxyFeed
