import ProxyFeed.Proofs.RelaxedJson.ReadBack
import ProxyFeed.Store.JsonColumn

/-!
# JSON columns in standard notation

What the JSON functions of a database find in a column whose text a program wrote: the items of an
array member, and those with a given text in one of their fields.

## What is here

* `Json.itemsOf` — the items of an array member.
* `RelaxedJson.member?_relaxed` — members are found by their keys, unless a null character ends one.
* `JsonColumn.clients_compact` and `JsonColumn.fallbacks_compact` — the elements of a column.
* `JsonColumn.anyOf_relaxed` and `JsonColumn.firstOf_relaxed` — the tests.
-/

set_option autoImplicit false
namespace ProxyFeed

namespace Json

/-- The items of an array member; none if there is no such member. -/
def itemsOf (v : Json) (key : String) : List Json := ((v.get? key).bind arr?).getD []

/-- A member is absent, or an array. -/
def ArrayAt (v : Json) (key : String) : Prop := ∀ w, v.get? key = some w → ∃ items, w = .arr items

theorem ArrayAt.get?_eq {v : Json} {key : String} (h : v.ArrayAt key) :
    v.get? key = none ∧ v.itemsOf key = [] ∨ v.get? key = some (.arr (v.itemsOf key)) := by
  rw [itemsOf]
  cases found : v.get? key with
  | none => exact .inl ⟨rfl, rfl⟩
  | some w =>
    obtain ⟨items, rfl⟩ := h w found
    exact .inr rfl

/-- No key has a null character. -/
def PlainKeys : Json → Prop := EveryObject fun ms => ∀ k ∈ ms.keys, '\x00' ∉ k.toList

instance (v : Json) : Decidable v.PlainKeys := decidableEveryObject v

end Json

namespace RelaxedJson

open Json (relaxedItems relaxedMembers)

mutual

/-- A tree of standard JSON stays as it is when it is written again. -/
theorem standard_relaxed : ∀ v : Json, v.relaxed.standard = v.relaxed
  | .null | .bool _ | .num _ => rfl
  | .str s => congrArg RelaxedJson.str (LooseText.standard_written s)
  | .arr items => congrArg RelaxedJson.arr (standardItems_relaxedItems items)
  | .obj ms => congrArg RelaxedJson.obj (standardMembers_relaxedMembers ms)

theorem standardItems_relaxedItems :
    ∀ items : List Json, standardItems (relaxedItems items) = relaxedItems items
  | [] => rfl
  | item :: items => by
    rw [relaxedItems, standardItems, standard_relaxed item, standardItems_relaxedItems items]

theorem standardMembers_relaxedMembers :
    ∀ ms : List (String × Json), standardMembers (relaxedMembers ms) = relaxedMembers ms
  | [] => rfl
  | (k, v) :: ms => by
    rw [relaxedMembers, standardMembers, LooseText.standard_written, standard_relaxed v,
      standardMembers_relaxedMembers ms]

end

theorem isKey_written {k : String} (plain : '\x00' ∉ k.toList) (key : String) :
    isKey (LooseText.written k) key = decide (k = key) := by
  rw [isKey, LooseText.unescaped_written, LooseText.takeWhile_ofChars plain,
    LooseText.isChars_ofChars]
  exact decide_eq_decide.2 String.toList_inj

theorem member?_relaxed {v : Json} (object : ∃ ms, v = .obj ms) (plain : v.PlainKeys)
    (key : String) : member? key v.relaxed = (v.get? key).map Json.relaxed := by
  obtain ⟨ms, rfl⟩ := object
  obtain ⟨plain, -⟩ := plain
  rw [Json.relaxed, member?, Json.get?, Members.get?]
  induction ms with
  | nil => rfl
  | cons m ms ih =>
    obtain ⟨k, v⟩ := m
    obtain ⟨first, others⟩ := List.forall_mem_cons.1 plain
    rw [relaxedMembers, List.find?_cons, List.find?_cons, isKey_written first]
    cases decide (k = key) with
    | true => rfl
    | false => exact ih others

end RelaxedJson

namespace JsonColumn

open Json (relaxedItems)

section Column

variable {v : Json} (integral : v.Integral) (shallow : v.depth ≤ RelaxedJson.nestingLimit)

include integral shallow

theorem column_compact : column v.compact = .ok v.relaxed := by
  rw [column, document, RelaxedJson.parse?_compact integral shallow]

variable (object : ∃ ms, v = .obj ms) (plain : v.PlainKeys)

include object plain

/-- The clients of a settings column. -/
theorem clients_compact (array : v.ArrayAt "clients") :
    clients v.compact = .ok (relaxedItems (v.itemsOf "clients")) := by
  have member := RelaxedJson.member?_relaxed object plain "clients"
  have read := column_compact integral shallow
  obtain ⟨absent, none⟩ | found := array.get?_eq
  · rw [absent] at member
    simp only [clients, read, bind, Except.bind, member, none]
    rfl
  · have items : argument (Json.arr (v.itemsOf "clients")).relaxed =
        .ok (some (Json.arr (v.itemsOf "clients")).relaxed) :=
      congrArg (Except.ok ∘ some) (RelaxedJson.standard_relaxed (.arr _))
    rw [found] at member
    simp only [clients, read, bind, Except.bind, member, Option.map_some, items]
    rfl

/-- The fallbacks of a settings column. -/
theorem fallbacks_compact (array : v.ArrayAt "fallbacks") :
    fallbacks v.compact = .ok (relaxedItems (v.itemsOf "fallbacks")) := by
  have member := RelaxedJson.member?_relaxed object plain "fallbacks"
  have read := column_compact integral shallow
  obtain ⟨absent, none⟩ | found := array.get?_eq
  · rw [absent] at member
    simp only [fallbacks, read, bind, Except.bind, member, none]
    rfl
  · rw [found] at member
    simp only [fallbacks, read, bind, Except.bind, member, Option.map_some]
    rfl

end Column

/-! ## Tests -/

/-- An object whose field is absent, a string or a number. -/
structure ScalarAt (key : String) (item : Json) : Prop where
  object : ∃ ms, item = .obj ms
  plain : item.PlainKeys
  scalar : ∀ w, item.get? key = some w → (∃ s, w = .str s) ∨ ∃ n, w = .num n

theorem fieldIs_relaxed {key : String} {item : Json} (h : ScalarAt key item) (text : String) :
    fieldIs key text item.relaxed = .ok (decide (item.text? key = some text)) := by
  obtain ⟨ms, rfl⟩ := h.object
  have object : argument (Json.obj ms).relaxed = .ok (some (Json.obj ms).relaxed) :=
    congrArg (Except.ok ∘ some) (RelaxedJson.standard_relaxed (.obj ms))
  have member := RelaxedJson.member?_relaxed ⟨ms, rfl⟩ h.plain key
  cases found : (Json.obj ms).get? key with
  | none =>
    rw [found, Option.map_none] at member
    simp only [fieldIs, object, bind, Except.bind, Option.bind_some, member, Json.text?, found]
    rfl
  | some w =>
    rw [found, Option.map_some] at member
    simp only [fieldIs, object, bind, Except.bind, Option.bind_some, member, Json.text?, found]
    obtain ⟨s, rfl⟩ | ⟨n, rfl⟩ := h.scalar w found
    · have same : RelaxedJson.isText text (Json.str s).relaxed = decide (s = text) := by
        rw [Json.relaxed, RelaxedJson.isText, LooseText.unescaped_written,
          LooseText.isChars_ofChars]
        exact decide_eq_decide.2 String.toList_inj
      show Except.ok (RelaxedJson.isText text (Json.str s).relaxed) = _
      rw [same]
      simp [Json.str?]
    · rfl

/-- **Looking at every element finds the text of a field.** -/
theorem anyOf_relaxed {key : String} {items : List Json} (h : ∀ item ∈ items, ScalarAt key item)
    (text : String) : anyOf key text (relaxedItems items) =
      .ok (items.any fun item => item.text? key = some text) := by
  have each : (relaxedItems items).mapM (fieldIs key text) =
      .ok (items.map fun item => decide (item.text? key = some text)) := by
    induction items with
    | nil => rfl
    | cons item items ih =>
      obtain ⟨first, others⟩ := List.forall_mem_cons.1 h
      rw [relaxedItems, List.mapM_cons, fieldIs_relaxed first, ih others]
      rfl
  rw [anyOf, each]
  show Except.ok ((items.map fun item => decide (item.text? key = some text)).any id) = _
  rw [List.any_map]
  rfl

/-- **So does looking no further than the first one.** -/
theorem firstOf_relaxed {key : String} {items : List Json} (h : ∀ item ∈ items, ScalarAt key item)
    (text : String) : firstOf key text (relaxedItems items) =
      .ok (items.any fun item => item.text? key = some text) := by
  induction items with
  | nil => rfl
  | cons item items ih =>
    obtain ⟨first, others⟩ := List.forall_mem_cons.1 h
    rw [relaxedItems, firstOf, fieldIs_relaxed first, ih others, List.any_cons]
    cases decide (item.text? key = some text) <;> rfl

end JsonColumn
end ProxyFeed
