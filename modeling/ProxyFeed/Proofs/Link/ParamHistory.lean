import ProxyFeed.Proofs.Json.Members
import ProxyFeed.Proofs.Link.VmessReadBack
import Mathlib.Data.List.Induction

/-!
# Parameter sets forget their history

A parameter set is made by a sequence of operations, and only the map that they amount to is left of
it: each key has the value that was last set and not removed since.  Both texts of the set are
written from that map and can be read back as it.

## What is here

* `ParamSet.Step` — an operation; `ParamSet.run` makes a set by a sequence of them.
* `ParamSet.Holds` — the map that a sequence amounts to, read off the sequence alone.
* `ParamSet.get?_apply_iff` and `ParamSet.get?_run_iff` — one operation, and a sequence, on the map.
* `ParamSet.Encodes` — what a set is, and what its texts say, in terms of a map.
-/

set_option autoImplicit false
namespace ProxyFeed
namespace ParamSet

/-! ## Operations -/

/-- An operation on a parameter set. -/
inductive Step where
  | set (key : String) (v : ParamValue)
  | setText? (key : String) (text : Option String)
  | removeAll (keys : List String)
deriving DecidableEq, Repr

namespace Step

/-- Carries out an operation. -/
def apply (s : ParamSet) : Step → ParamSet
  | set key v => s.set key v
  | setText? key text => s.setText? key text
  | removeAll keys => s.removeAll keys

/-- Does an operation set a key to a value?  Setting a text that is not there sets nothing. -/
def Sets (key : String) (v : ParamValue) : Step → Prop
  | set k w => k = key ∧ w = v
  | setText? k text => k = key ∧ text.map ParamValue.text = some v
  | removeAll _ => False

/-- Does an operation remove a key? -/
def Removes (key : String) : Step → Prop
  | removeAll keys => key ∈ keys
  | _ => False

/-- Does an operation leave a key alone? -/
def Leaves (key : String) (step : Step) : Prop := ¬ step.Removes key ∧ ∀ v, ¬ step.Sets key v

end Step

/-- The set made by a sequence of operations. -/
def run (steps : List Step) : ParamSet := steps.foldl Step.apply empty

/-- A sequence of operations gives a key a value: the one that was last set, if the key was not
removed since. -/
def Holds (steps : List Step) (key : String) (v : ParamValue) : Prop :=
  ∃ before step after, steps = before ++ step :: after ∧ step.Sets key v ∧
    ∀ later ∈ after, later.Leaves key

variable {steps : List Step}

theorem run_append_singleton (steps : List Step) (step : Step) :
    run (steps ++ [step]) = step.apply (run steps) := by
  rw [run, List.foldl_append]
  rfl

/-- The last operation decides, unless it leaves the key alone. -/
theorem holds_append_singleton {step : Step} {key : String} {v : ParamValue} :
    Holds (steps ++ [step]) key v ↔ step.Sets key v ∨ (step.Leaves key ∧ Holds steps key v) := by
  constructor
  · rintro ⟨before, last, after, same, sets, quiet⟩
    cases after using List.reverseRecOn with
    | nil =>
      obtain ⟨-, only⟩ := List.append_inj' same rfl
      obtain rfl := (List.cons.inj only).1
      exact .inl sets
    | append_singleton after final =>
      have same : steps ++ [step] = (before ++ last :: after) ++ [final] := by simpa using same
      obtain ⟨rfl, only⟩ := List.append_inj' same rfl
      obtain rfl := (List.cons.inj only).1
      obtain ⟨quiet, still⟩ := List.forall_mem_append.1 quiet
      exact .inr ⟨List.forall_mem_singleton.1 still, before, last, after, rfl, sets, quiet⟩
  · rintro (sets | ⟨still, before, last, after, rfl, sets, quiet⟩)
    · exact ⟨steps, step, [], rfl, sets, fun _ none => absurd none List.not_mem_nil⟩
    · refine ⟨before, last, after ++ [step], by simp, sets, ?_⟩
      exact List.forall_mem_append.2 ⟨quiet, List.forall_mem_singleton.2 still⟩

theorem not_holds_nil {key : String} {v : ParamValue} : ¬ Holds [] key v := by
  rintro ⟨before, step, after, none, -⟩
  exact absurd none.symm (by simp)

/-- **One operation on the map.** -/
theorem get?_apply_iff {step : Step} {s : ParamSet} {key : String} {v : ParamValue} :
    (step.apply s).get? key = some v ↔
      step.Sets key v ∨ (step.Leaves key ∧ s.get? key = some v) := by
  cases step with
  | set k w =>
    rw [Step.apply, get?_set]
    by_cases same : key = k
    · simp [Step.Sets, Step.Leaves, same]
    · simp [Step.Sets, Step.Leaves, Step.Removes, same, Ne.symm same]
  | setText? k text =>
    rw [Step.apply, get?_setText?]
    cases text with
    | none => simp [Step.Sets, Step.Leaves, Step.Removes]
    | some t =>
      by_cases same : key = k
      · simp [Step.Sets, Step.Leaves, same]
      · simp [Step.Sets, Step.Leaves, Step.Removes, same, Ne.symm same]
  | removeAll keys =>
    rw [Step.apply, get?_removeAll]
    by_cases removed : key ∈ keys
    · simp [Step.Sets, Step.Leaves, Step.Removes, removed]
    · simp [Step.Sets, Step.Leaves, Step.Removes, removed]

/-- **A sequence of operations gives each key its last value.** -/
theorem get?_run_iff {key : String} {v : ParamValue} :
    (run steps).get? key = some v ↔ Holds steps key v := by
  induction steps using List.reverseRecOn with
  | nil => exact iff_of_false (by simp [run]) not_holds_nil
  | append_singleton steps step ih =>
    rw [run_append_singleton, get?_apply_iff, ih, holds_append_singleton]

theorem Distinct.apply {s : ParamSet} (h : s.Distinct) (step : Step) : (step.apply s).Distinct := by
  cases step with
  | set key v => exact h.set key v
  | setText? key text => exact h.setText? key text
  | removeAll keys => exact h.removeAll keys

theorem distinct_run (steps : List Step) : (run steps).Distinct := by
  induction steps using List.reverseRecOn with
  | nil => exact distinct_empty
  | append_singleton steps step ih =>
    rw [run_append_singleton]
    exact ih.apply step

/-! ## Texts -/

/-- What a set is and what its texts say, if its keys have the values that a map gives them. -/
structure Encodes (map : String → ParamValue → Prop) (s : ParamSet) : Prop where
  distinct : s.Distinct
  value : ∀ key v, s.get? key = some v ↔ map key v
  query : s.query = String.ofList (Form.encode s.pairs)
  decode_query : Form.decode s.query.toList = s.pairs.map fun p => (utf8 p.1, utf8 p.2)
  increasing : s.pairs.Pairwise fun p q => utf8 p.1 < utf8 q.1
  mem_pairs_iff : ∀ key text, (key, text) ∈ s.pairs ↔ ∃ v, map key v ∧ v.queryText = text
  parse?_document : RawJson.parse? s.document = some (Json.obj s.members).raw
  nodup_members : s.members.keys.Nodup
  mem_members_iff : ∀ key value, (key, value) ∈ s.members ↔ ∃ v, map key v ∧ v.toJson = value
  /-- The document is read as a value too, unless it has the key that is reserved for texts inside
  of texts. -/
  value_of_document : (∀ v, ¬ map RawJson.embeddedKey v) →
    Json.parse? s.document = some (.obj s.members)

theorem Distinct.mem_members_iff {s : ParamSet} (h : s.Distinct) {key : String} {value : Json} :
    (key, value) ∈ s.members ↔ ∃ v, s.get? key = some v ∧ v.toJson = value := by
  rw [← Members.get?_eq_some_iff h.nodup_members, get?_members, Option.map_eq_some_iff]

theorem Distinct.encodes {s : ParamSet} (h : s.Distinct) {map : String → ParamValue → Prop}
    (value : ∀ key v, s.get? key = some v ↔ map key v) : s.Encodes map where
  distinct := h
  value := value
  query := rfl
  decode_query := by rw [query, String.toList_ofList, Form.decode_encode, ← pairs]
  increasing := h.lists.increasing
  mem_pairs_iff key text := by
    simp only [h.mem_pairs_iff, Option.map_eq_some_iff, value]
  parse?_document := RawJson.parse?_pretty s.integral_toJson
  nodup_members := h.nodup_members
  mem_members_iff key tree := by
    simp only [h.mem_members_iff, value]
  value_of_document unreserved := by
    refine parse?_document h (Option.eq_none_iff_forall_ne_some.2 fun v there => ?_)
    exact unreserved v ((value _ v).1 there)

/-- **A set forgets its history.**  Whatever was done to it, it is the map that this amounts to, and
its texts say that map.  The same map therefore has the same texts, and another map has another
document. -/
theorem history_forgotten :
    (∀ steps, (run steps).Encodes (Holds steps)) ∧
    (∀ steps steps', (∀ key v, Holds steps key v ↔ Holds steps' key v) →
      (run steps).query = (run steps').query ∧ (run steps).document = (run steps').document) ∧
    ∀ steps steps', (run steps).document = (run steps').document →
      ∀ key v, Holds steps key v ↔ Holds steps' key v := by
  refine ⟨fun steps => (distinct_run steps).encodes fun _ _ => get?_run_iff, ?_, ?_⟩
  · intro steps steps' same
    have found (key : String) : (run steps).get? key = (run steps').get? key := by
      refine Option.ext fun v => ?_
      rw [get?_run_iff, get?_run_iff, same]
    have listed := (distinct_run steps).sorted_eq (distinct_run steps') found
    rw [query, query, document, document, toJson, toJson, listed]
    exact ⟨rfl, rfl⟩
  · intro steps steps' same key v
    rw [← get?_run_iff, ← get?_run_iff, get?_eq_of_document_eq same]

/-- A key that was removed comes back with another kind of value. -/
def detour : List Step :=
  [.set "port" (.int 443), .setText? "host" (some "a b"), .removeAll ["port", "sni"],
    .setText? "host" none, .set "port" (.text "ü&")]

theorem history_forgotten_detour :
    (∀ key v, Holds detour key v ↔
      Holds [.set "port" (.text "ü&"), .set "host" (.text "a b")] key v) ∧
    (run detour).query = (run [.set "port" (.text "ü&"), .set "host" (.text "a b")]).query ∧
    (run detour).query = "host=a+b&port=%C3%BC%26" := by
  obtain ⟨-, same_texts, same_map⟩ := history_forgotten
  have same := same_map detour [.set "port" (.text "ü&"), .set "host" (.text "a b")]
    (by decide +kernel)
  exact ⟨same, (same_texts _ _ same).1, by decide +kernel⟩

end ParamSet
end ProxyFeed
