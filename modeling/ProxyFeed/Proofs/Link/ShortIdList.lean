import ProxyFeed.Proofs.Link.ShortId
import ProxyFeed.Proofs.Text.Blank
import Mathlib.Data.List.Induction

/-!
# The short ids of a list

A list of values is read from its front.  Each string that names a short id gives that id, unless an
earlier one gave it.

## What is here

* `ShortId.Names` — which short id a string names, if any.
* `ShortId.normalize_concat` — what one more value adds to the ids.
* `ShortId.Lists` — the ids that a list of values names, each once, in the order of the first values
  that name them.
* `ShortId.ids_listed_once_in_order` — that is what `ShortId.normalize` finds; normalizing the ids
  again changes nothing, and further values only add to them.
-/

set_option autoImplicit false
namespace ProxyFeed
namespace ShortId

/-! ## Naming an id -/

/-- A string names a short id: without the white space around it, it consists of 8 to 16 hexadecimal
digits, an even number of them, and the id is these digits in lower case. -/
structure Names (s id : String) : Prop where
  digits : ∀ c ∈ (trimmed s).toList, isHexDigit c = true
  eight_le : 8 ≤ (trimmed s).length
  le_sixteen : (trimmed s).length ≤ 16
  even : (trimmed s).length % 2 = 0
  lowered : String.ofList ((trimmed s).toList.map Char.toLower) = id

theorem ofText?_eq_some_iff {s id : String} : ofText? s = some id ↔ Names s id := by
  have trimmed_toList : (trimmed s).toList = Blank.trim s.toList := String.toList_ofList
  rw [ofText?, Option.ite_none_right_eq_some, isValid_iff, ← trimmed_toList, Option.some.injEq]
  constructor
  · rintro ⟨⟨digits, eight_le, le_sixteen, even⟩, lowered⟩
    exact ⟨digits, eight_le, le_sixteen, even, lowered⟩
  · rintro ⟨digits, eight_le, le_sixteen, even, lowered⟩
    exact ⟨⟨digits, eight_le, le_sixteen, even⟩, lowered⟩

/-- A value names a short id if it is a string that does. -/
def NamedBy (v : Json) (id : String) : Prop := ∃ s, v = .str s ∧ Names s id

theorem ofJson?_eq_some_iff {v : Json} {id : String} : ofJson? v = some id ↔ NamedBy v id := by
  cases v with
  | str s =>
    rw [ofJson?, Json.str?, Option.bind_some, ofText?_eq_some_iff]
    exact ⟨fun h => ⟨s, rfl, h⟩, fun ⟨_, same, h⟩ => Json.str.inj same ▸ h⟩
  | _ =>
    constructor
    · rintro ⟨⟩
    · rintro ⟨_, ⟨⟩, -⟩

instance (v : Json) (id : String) : Decidable (NamedBy v id) :=
  decidable_of_iff _ ofJson?_eq_some_iff

theorem mem_normalize_iff {values : List Json} {id : String} :
    id ∈ normalize values ↔ ∃ v ∈ values, NamedBy v id := by
  simp only [normalize, List.mem_eraseDups, List.mem_filterMap, ofJson?_eq_some_iff]

/-! ## Digits in lower case -/

theorem isHexDigit_of_isLowerHex {c : Char} (h : IsLowerHex c) : isHexDigit c = true := by
  rcases h with ⟨low, high⟩ | ⟨low, high⟩ <;> simp [isHexDigit, low, high]

theorem lowerHex_kept_ofNat : ∀ n < 128, IsLowerHex (Char.ofNat n) →
    Blank.isBlank (Char.ofNat n) = false ∧ (Char.ofNat n).toLower = Char.ofNat n := by
  decide +kernel

/-- Digits in lower case are not cut off, and they stay as they are. -/
theorem lowerHex_kept {c : Char} (h : IsLowerHex c) :
    Blank.isBlank c = false ∧ c.toLower = c := by
  have kept := lowerHex_kept_ofNat c.toNat (toNat_lt_of_isHexDigit (isHexDigit_of_isLowerHex h))
  rw [Char.ofNat_toNat] at kept
  exact kept h

theorem IsShortId.trimmed_eq {id : String} (h : IsShortId id) : trimmed id = id := by
  have not_blank (c : Char) (hc : c ∈ id.toList) : Blank.isBlank c = false :=
    (lowerHex_kept (h.digits c hc)).1
  have nothing_around : ∀ c ∈ ([] : List Char), Blank.isBlank c = true :=
    fun _ none => absurd none List.not_mem_nil
  have cut := Blank.trimBy_append nothing_around nothing_around
    (fun c first => not_blank c (List.mem_of_mem_head? first))
    (fun c last => not_blank c (List.mem_of_mem_getLast? last))
  rw [List.nil_append, List.append_nil] at cut
  rw [trimmed, Blank.trim, cut, String.ofList_toList]

/-- **A short id names itself.** -/
theorem IsShortId.names_self {id : String} (h : IsShortId id) : Names id id := by
  have lower : id.toList.map Char.toLower = id.toList :=
    (List.map_congr_left fun c hc => (lowerHex_kept (h.digits c hc)).2).trans (List.map_id _)
  constructor
  · rw [h.trimmed_eq]
    exact fun c hc => isHexDigit_of_isLowerHex (h.digits c hc)
  · exact h.trimmed_eq.symm ▸ h.eight_le
  · exact h.trimmed_eq.symm ▸ h.le_sixteen
  · exact h.trimmed_eq.symm ▸ h.even
  · rw [h.trimmed_eq, lower, String.ofList_toList]

/-! ## One more value -/

theorem eraseDups_concat (ids : List String) (id : String) :
    (ids ++ [id]).eraseDups =
      if id ∈ ids.eraseDups then ids.eraseDups else ids.eraseDups ++ [id] := by
  have known_iff : id ∈ ids.eraseDups ↔ id ∈ ids := List.mem_eraseDups
  rw [List.eraseDups_append]
  by_cases known : id ∈ ids
  · simp [List.removeAll, known_iff, known]
  · simp [List.removeAll, List.eraseDups_cons, known_iff, known]

/-- **One more value adds the id that it names, if that is new.** -/
theorem normalize_concat (values : List Json) (v : Json) : normalize (values ++ [v]) =
    normalize values ++ ((ofJson? v).filter (· ∉ normalize values)).toList := by
  rw [normalize, List.filterMap_append]
  cases named : ofJson? v with
  | none => simp [named, normalize]
  | some id =>
    rw [List.filterMap_cons_some named, List.filterMap_nil, eraseDups_concat, ← normalize]
    by_cases known : id ∈ normalize values
    · simp [Option.filter_some, known]
    · simp [Option.filter_some, known]

/-- **Further values only add to the ids.** -/
theorem normalize_prefix_append (values more : List Json) :
    normalize values <+: normalize (values ++ more) := by
  induction more using List.reverseRecOn with
  | nil => simp
  | append_singleton more v ih =>
    rw [← List.append_assoc, normalize_concat]
    exact ih.trans (List.prefix_append _ _)

/-- **Short ids that differ are left as they are.** -/
theorem normalize_map_str {ids : List String} (short : ∀ id ∈ ids, IsShortId id)
    (nodup : ids.Nodup) : normalize (ids.map .str) = ids := by
  induction ids using List.reverseRecOn with
  | nil => rfl
  | append_singleton ids id ih =>
    obtain ⟨short, last⟩ := List.forall_mem_append.1 short
    obtain ⟨nodup, -, apart⟩ := List.nodup_append.1 nodup
    have named : ofJson? (.str id) = some id :=
      ofJson?_eq_some_iff.2 ⟨id, rfl, (last id List.mem_cons_self).names_self⟩
    have new : id ∉ ids := fun known => apart id known id List.mem_cons_self rfl
    rw [List.map_append, List.map_singleton, normalize_concat, ih short nodup, named,
      Option.filter_some, if_pos (decide_eq_true new), Option.toList_some]

/-! ## The order of the ids -/

/-- The place of the first value that names an id. -/
def placeOf (values : List Json) (id : String) : Nat := values.findIdx (NamedBy · id)

theorem placeOf_lt_iff {values : List Json} {id : String} :
    placeOf values id < values.length ↔ id ∈ normalize values := by
  rw [placeOf, List.findIdx_lt_length, mem_normalize_iff]
  simp only [decide_eq_true_eq]

theorem placeOf_concat_of_mem {values : List Json} {id : String} (known : id ∈ normalize values)
    (v : Json) : placeOf (values ++ [v]) id = placeOf values id := by
  rw [placeOf, List.findIdx_append]
  exact if_pos (placeOf_lt_iff.2 known)

theorem le_placeOf_concat_of_not_mem {values : List Json} {id : String}
    (new : id ∉ normalize values) (v : Json) : values.length ≤ placeOf (values ++ [v]) id := by
  rw [placeOf, List.findIdx_append, ← placeOf, if_neg (mt placeOf_lt_iff.1 new)]
  exact Nat.le_add_left _ _

/-- **The ids stand in the order of the first values that name them.** -/
theorem pairwise_placeOf_normalize (values : List Json) :
    (normalize values).Pairwise fun a b => placeOf values a < placeOf values b := by
  -- what is known of the values read so far carries over, for a known id keeps its place
  induction values using List.reverseRecOn with
  | nil => exact List.Pairwise.nil
  | append_singleton values v ih =>
    rw [normalize_concat, List.pairwise_append]
    refine ⟨ih.imp_of_mem fun {a b} known known' lt => ?_, ?_, fun a known b added => ?_⟩
    · rwa [placeOf_concat_of_mem known, placeOf_concat_of_mem known']
    · -- at most one id is added
      cases (ofJson? v).filter (· ∉ normalize values) with
      | none => exact List.Pairwise.nil
      | some id => exact List.pairwise_singleton _ id
    · have new := (Option.filter_eq_some_iff.1 (Option.mem_toList.1 added)).2
      rw [placeOf_concat_of_mem known]
      exact Nat.lt_of_lt_of_le (placeOf_lt_iff.2 known)
        (le_placeOf_concat_of_not_mem (of_decide_eq_true new) v)

/-! ## All of it -/

/-- The short ids that a list of values names: each once, in the order of the first values that name
them. -/
structure Lists (values : List Json) (ids : List String) : Prop where
  isShortId : ∀ id ∈ ids, IsShortId id
  nodup : ids.Nodup
  mem_iff : ∀ id, id ∈ ids ↔ ∃ v ∈ values, NamedBy v id
  ordered : ids.Pairwise fun a b => placeOf values a < placeOf values b

theorem lists_normalize (values : List Json) : Lists values (normalize values) where
  isShortId id there := by
    obtain ⟨v, -, s, rfl, named⟩ := mem_normalize_iff.1 there
    exact isShortId_of_ofText? (ofText?_eq_some_iff.2 named)
  nodup := by
    refine (pairwise_placeOf_normalize values).imp ?_
    rintro id _ lt rfl
    exact Nat.lt_irrefl _ lt
  mem_iff _ := mem_normalize_iff
  ordered := pairwise_placeOf_normalize values

/-- **Normalizing finds the short ids that a list of values names.**  Normalizing these ids again
changes nothing, further values only add to them, and the first short id is the first of them. -/
theorem ids_listed_once_in_order (values more : List Json) :
    Lists values (normalize values) ∧
      normalize ((normalize values).map .str) = normalize values ∧
      normalize values <+: normalize (values ++ more) ∧
      first? values = (normalize values).head? := by
  have listed := lists_normalize values
  exact ⟨listed, normalize_map_str listed.isShortId listed.nodup,
    normalize_prefix_append values more, rfl⟩

/-- White space of any kind is cut off, case does not tell ids apart, and other values name none. -/
example : normalize [.str "\u3000DEADBEEF ", .ofInt 12345678, .str "deadbeef", .str "beef"] =
    ["deadbeef"] := by
  decide +kernel

end ShortId
end ProxyFeed
