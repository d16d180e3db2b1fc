import ProxyFeed.Subscription.Summary
import Mathlib.Algebra.BigOperators.Group.List.Basic
import Mathlib.Algebra.Order.BigOperators.Group.List
import Mathlib.Algebra.Ring.Int.Defs
import Mathlib.Data.List.Induction

/-!
# The traffic of a subscription, told at once

The summary is folded client by client, with a special case for the first one, sums that stop at the
end of their range, and two fields that a single client can turn to zero for good.  As long as no
counter is negative, none of this depends on the order: the summary can be told from all records at
once.

## What is here

* `Traffic.Counts` — a record whose counters are not negative.
* `TrafficSummary.combined` — the summary, told from all records at once.
* `TrafficSummary.ofList_eq_combined` — which is what the fold arrives at.
* `TrafficSummary.combined_perm` — it does not depend on the order of the records.
* `TrafficSummary.ClosedForm` — the summary in plain integers; `TrafficSummary.ofList_closedForm`
  says that the fold has it.
-/

set_option autoImplicit false
namespace ProxyFeed

open Saturating

/-- No counter is negative.  The expiry is not a counter. -/
structure Traffic.Counts (t : Traffic) : Prop where
  up : 0 ≤ t.up
  down : 0 ≤ t.down
  total : 0 ≤ t.total

/-- The record of a client that has none counts. -/
theorem Traffic.counts_default : Traffic.Counts {} := ⟨by decide, by decide, by decide⟩

namespace TrafficSummary

/-! ## All records at once -/

/-- The sum of a counter, up to the end of its range. -/
def sumOf (counter : Traffic → Int64) (ts : List Traffic) : Int64 :=
  Int64.ofInt (min (ts.map fun t => (counter t).toInt).sum Int64.maxValue.toInt)

/-- The allowance of clients together: none if one of them has none. -/
def allowance (ts : List Traffic) : Int64 :=
  if ∃ t ∈ ts, t.total = 0 then 0 else sumOf (·.total) ts

/-- The expiry that all clients have; zero if there is none. -/
def commonExpiry : List Traffic → Int64
  | [] => 0
  | t :: ts =>
    if 0 < t.expiryTime ∧ ∀ u ∈ ts, u.expiryTime = t.expiryTime then t.expiryTime else 0

/-- The summary of clients, told from all records at once. -/
def combined (ts : List Traffic) : TrafficSummary where
  up := sumOf (·.up) ts
  down := sumOf (·.down) ts
  total := allowance ts
  expiryTime := commonExpiry ts
  seeded := !ts.isEmpty

/-! ## One record more

The fold takes in the last record of a list, so each field is followed from a list to the list with
one record more at its end. -/

theorem toInt_nonneg {n : Int64} (h : 0 ≤ n) : 0 ≤ n.toInt := Int64.le_iff_toInt_le.1 h

/-- Adding to a sum that stopped at the end of its range. -/
theorem satAdd_min {a : Int} (ha : 0 ≤ a) {b : Int64} (hb : 0 ≤ b.toInt) :
    satAdd (Int64.ofInt (min a Int64.maxValue.toInt)) b =
      Int64.ofInt (min (a + b.toInt) Int64.maxValue.toInt) := by
  rw [Int64.toInt_maxValue]
  have unchanged : (Int64.ofInt (min a (2 ^ 63 - 1))).toInt = min a (2 ^ 63 - 1) :=
    Int64.toInt_ofInt_of_le (by omega) (by omega)
  rw [satAdd, unchanged, clamp, Int64.toInt_minValue, Int64.toInt_maxValue, if_neg (by omega)]
  split
  · next exceeds =>
    have stopped : min (a + b.toInt) (2 ^ 63 - 1) = 2 ^ 63 - 1 := by omega
    rw [stopped]
    rfl
  · next fits =>
    -- a sum that had stopped before can only have been followed by zero
    have same : min a (2 ^ 63 - 1) + b.toInt = min (a + b.toInt) (2 ^ 63 - 1) := by omega
    rw [same]

variable {counter : Traffic → Int64} {ts : List Traffic} {t : Traffic}

theorem sum_nonneg (h : ∀ t ∈ ts, 0 ≤ counter t) : 0 ≤ (ts.map fun t => (counter t).toInt).sum := by
  refine List.sum_nonneg fun n hn => ?_
  obtain ⟨t, ht, rfl⟩ := List.mem_map.1 hn
  exact toInt_nonneg (h t ht)

theorem sumOf_concat (counter : Traffic → Int64) (h : ∀ u ∈ ts, 0 ≤ counter u)
    (ht : 0 ≤ counter t) : sumOf counter (ts ++ [t]) = satAdd (sumOf counter ts) (counter t) := by
  rw [sumOf, sumOf, satAdd_min (sum_nonneg h) (toInt_nonneg ht), List.map_append, List.sum_append,
    List.map_singleton, List.sum_singleton]

theorem sumOf_singleton (counter : Traffic → Int64) (t : Traffic) :
    sumOf counter [t] = counter t := by
  have bounded : (counter t).toInt ≤ Int64.maxValue.toInt := Int64.toInt_le _
  rw [sumOf, List.map_singleton, List.sum_singleton, min_eq_left bounded, Int64.ofInt_toInt]

/-- Clients that all have an allowance have one together. -/
theorem allowance_eq_zero_iff (ne : ts ≠ []) (h : ∀ t ∈ ts, t.Counts) :
    allowance ts = 0 ↔ ∃ t ∈ ts, t.total = 0 := by
  rw [allowance]
  split
  · next unlimited => exact iff_of_true rfl unlimited
  · next limited =>
    refine iff_of_false (fun zero => ?_) limited
    obtain ⟨t, rest, rfl⟩ := List.exists_cons_of_ne_nil ne
    have rest_nonneg : 0 ≤ (rest.map fun t => t.total.toInt).sum :=
      sum_nonneg fun u hu => (h u (List.mem_cons_of_mem _ hu)).total
    have first : 0 < t.total.toInt := by
      have nonneg := toInt_nonneg (h t List.mem_cons_self).total
      have ne_zero : t.total.toInt ≠ 0 := fun same =>
        limited ⟨t, List.mem_cons_self, Int64.toInt_inj.1 same⟩
      omega
    have value := congrArg Int64.toInt zero
    rw [sumOf, Int64.toInt_maxValue, List.map_cons, List.sum_cons,
      Int64.toInt_ofInt_of_le (by omega) (by omega), Int64.toInt_zero] at value
    omega

theorem toInt_sumOf (h : ∀ t ∈ ts, 0 ≤ counter t) : (sumOf counter ts).toInt =
    min (ts.map fun t => (counter t).toInt).sum Int64.maxValue.toInt := by
  have nonneg := sum_nonneg h
  rw [sumOf, Int64.toInt_maxValue]
  exact Int64.toInt_ofInt_of_le (by omega) (by omega)

theorem allowance_concat (ne : ts ≠ []) (h : ∀ t ∈ ts, t.Counts) (ht : t.Counts) :
    allowance (ts ++ [t]) =
      if allowance ts = 0 ∨ t.total = 0 then 0 else satAdd (allowance ts) t.total := by
  have unlimited : (∃ u ∈ ts ++ [t], u.total = 0) ↔ allowance ts = 0 ∨ t.total = 0 := by
    simp [allowance_eq_zero_iff ne h, or_and_right, exists_or]
  rw [allowance]
  simp only [unlimited]
  split
  · rfl
  · next limited =>
    have none : ¬ ∃ u ∈ ts, u.total = 0 := fun some =>
      limited (.inl ((allowance_eq_zero_iff ne h).2 some))
    rw [sumOf_concat (·.total) (fun u hu => (h u hu).total) ht.total, allowance, if_neg none]

theorem commonExpiry_concat (ne : ts ≠ []) (t : Traffic) :
    commonExpiry (ts ++ [t]) = if t.expiryTime = commonExpiry ts then commonExpiry ts else 0 := by
  obtain ⟨u, rest, rfl⟩ := List.exists_cons_of_ne_nil ne
  rw [List.cons_append, commonExpiry, commonExpiry]
  simp only [List.mem_append, List.mem_singleton, or_imp, forall_and, forall_eq]
  by_cases common : 0 < u.expiryTime ∧ ∀ v ∈ rest, v.expiryTime = u.expiryTime
  · rw [if_pos common]
    by_cases same : t.expiryTime = u.expiryTime
    · rw [if_pos ⟨common.1, common.2, same⟩, if_pos same]
    · rw [if_neg fun h => same h.2.2, if_neg same]
  · rw [if_neg common, ite_self, if_neg fun h => common ⟨h.1, h.2.1⟩]

/-- **The fold takes in the last record as the whole does.** -/
theorem add_combined (h : ∀ t ∈ ts, t.Counts) (ht : t.Counts) :
    (combined ts).add t = combined (ts ++ [t]) := by
  cases ts with
  | nil =>
    have total : allowance [t] = t.total := by
      rw [allowance, sumOf_singleton]
      by_cases none : t.total = 0 <;> simp [none]
    have expiry : commonExpiry [t] = if 0 < t.expiryTime then t.expiryTime else 0 := by
      simp [commonExpiry]
    show TrafficSummary.mk t.up t.down t.total (if 0 < t.expiryTime then t.expiryTime else 0) true =
      ⟨sumOf (·.up) [t], sumOf (·.down) [t], allowance [t], commonExpiry [t], true⟩
    rw [sumOf_singleton, sumOf_singleton, total, expiry]
  | cons u rest =>
    have ne : u :: rest ≠ [] := List.cons_ne_nil u rest
    have up := sumOf_concat (·.up) (fun v hv => (h v hv).up) ht.up
    have down := sumOf_concat (·.down) (fun v hv => (h v hv).down) ht.down
    rw [combined, combined, up, down, allowance_concat ne h ht, commonExpiry_concat ne]
    rfl

/-- **The fold arrives at the summary of all records at once.** -/
theorem ofList_eq_combined (h : ∀ t ∈ ts, t.Counts) : ofList ts = combined ts := by
  induction ts using List.reverseRecOn with
  | nil => rfl
  | append_singleton ts t ih =>
    obtain ⟨before, last⟩ := List.forall_mem_append.1 h
    rw [ofList, List.foldl_append, List.foldl_cons, List.foldl_nil, ← ofList, ih before,
      add_combined before (last t (List.mem_singleton_self t))]

/-! ## The order of the records -/

theorem commonExpiry_of_forall {e : Int64} (ne : ts ≠ []) (positive : 0 < e)
    (all : ∀ t ∈ ts, t.expiryTime = e) : commonExpiry ts = e := by
  obtain ⟨t, rest, rfl⟩ := List.exists_cons_of_ne_nil ne
  obtain ⟨rfl, others⟩ := List.forall_mem_cons.1 all
  exact if_pos ⟨positive, others⟩

theorem forall_of_commonExpiry_ne_zero (h : commonExpiry ts ≠ 0) :
    ts ≠ [] ∧ 0 < commonExpiry ts ∧ ∀ t ∈ ts, t.expiryTime = commonExpiry ts := by
  cases ts with
  | nil => exact absurd rfl h
  | cons t rest =>
    rw [commonExpiry] at h ⊢
    split at h
    · next common =>
      rw [if_pos common]
      exact ⟨List.cons_ne_nil t rest, common.1, List.forall_mem_cons.2 ⟨rfl, common.2⟩⟩
    · exact absurd rfl h

theorem commonExpiry_perm {us : List Traffic} (h : ts.Perm us) :
    commonExpiry ts = commonExpiry us := by
  have transfer {xs ys : List Traffic} (h : xs.Perm ys) (some : commonExpiry xs ≠ 0) :
      commonExpiry ys = commonExpiry xs := by
    obtain ⟨ne, positive, all⟩ := forall_of_commonExpiry_ne_zero some
    have ne' : ys ≠ [] := fun none => ne (List.perm_nil.1 (none ▸ h))
    exact commonExpiry_of_forall ne' positive fun t ht => all t (h.mem_iff.2 ht)
  by_cases none : commonExpiry ts = 0
  · by_contra differ
    exact differ (transfer h.symm fun none' => differ (none.trans none'.symm))
  · exact (transfer h none).symm

theorem sumOf_perm {us : List Traffic} (h : ts.Perm us) (counter : Traffic → Int64) :
    sumOf counter ts = sumOf counter us := by
  rw [sumOf, sumOf, (h.map _).sum_eq]

/-- **The summary does not depend on the order of the records.** -/
theorem combined_perm {us : List Traffic} (h : ts.Perm us) : combined ts = combined us := by
  have unlimited : (∃ t ∈ ts, t.total = 0) ↔ ∃ t ∈ us, t.total = 0 := by
    simp only [h.mem_iff]
  rw [combined, combined, sumOf_perm h, sumOf_perm h, allowance, allowance, sumOf_perm h,
    commonExpiry_perm h, h.isEmpty_eq]
  simp only [unlimited]

/-! ## In plain integers -/

/-- Some clients, who all expire at one time that is set. -/
structure ExpireAt (ts : List Traffic) (expiry : Int64) : Prop where
  some_client : ts ≠ []
  positive : 0 < expiry
  all : ∀ t ∈ ts, t.expiryTime = expiry

/-- A summary in closed form. -/
structure ClosedForm (ts : List Traffic) (s : TrafficSummary) : Prop where
  up : s.up.toInt = min (ts.map fun t => t.up.toInt).sum Int64.maxValue.toInt
  down : s.down.toInt = min (ts.map fun t => t.down.toInt).sum Int64.maxValue.toInt
  unlimited : (ts = [] ∨ ∃ t ∈ ts, t.total = 0) → s.total = 0
  limited : ¬ (ts = [] ∨ ∃ t ∈ ts, t.total = 0) →
    s.total.toInt = min (ts.map fun t => t.total.toInt).sum Int64.maxValue.toInt
  expiry : ∀ e, ExpireAt ts e → s.expiryTime = e
  no_expiry : (∀ e, ¬ ExpireAt ts e) → s.expiryTime = 0

theorem combined_closedForm (h : ∀ t ∈ ts, t.Counts) : ClosedForm ts (combined ts) where
  up := toInt_sumOf fun t ht => (h t ht).up
  down := toInt_sumOf fun t ht => (h t ht).down
  unlimited := by
    rintro (rfl | unlimited)
    · rfl
    · exact if_pos unlimited
  limited := by
    intro limited
    show (allowance ts).toInt = _
    rw [allowance, if_neg fun unlimited => limited (.inr unlimited)]
    exact toInt_sumOf fun t ht => (h t ht).total
  expiry := by
    rintro e ⟨some_client, positive, all⟩
    exact commonExpiry_of_forall some_client positive all
  no_expiry := by
    intro apart
    by_contra some_expiry
    obtain ⟨some_client, positive, all⟩ := forall_of_commonExpiry_ne_zero some_expiry
    exact apart _ ⟨some_client, positive, all⟩

/-- **The fold has a closed form**, so the text sent to a subscriber is the same for every order of
the records. -/
theorem ofList_closedForm (h : ∀ t ∈ ts, t.Counts) :
    ClosedForm ts (ofList ts) ∧ ∀ us : List Traffic, us.Perm ts →
      (ofList us).header = (ofList ts).header := by
  rw [ofList_eq_combined h]
  refine ⟨combined_closedForm h, fun us order => ?_⟩
  rw [ofList_eq_combined fun t ht => h t (order.mem_iff.1 ht), combined_perm order]

/-- A client with an allowance, and two whose counters exceed the range together; the last one is
to expire before the epoch. -/
def crowdedTraffic : List Traffic :=
  [{ up := 5, down := 7, total := 100, expiryTime := 9000 },
    { up := 9223372036854775807, down := 1, total := 9223372036854775800, expiryTime := 9000 },
    { up := 3, down := 0, total := 200, expiryTime := -86400000 }]

/-- Both sums stop at the end of their range, and there is no expiry, even if the client that
differs comes first. -/
theorem ofList_closedForm_crowdedTraffic :
    (ofList crowdedTraffic).up = 9223372036854775807 ∧ (ofList crowdedTraffic).down = 8 ∧
      (ofList crowdedTraffic).total = 9223372036854775807 ∧
      (ofList crowdedTraffic).expiryTime = 0 ∧
      (ofList crowdedTraffic.reverse).header = (ofList crowdedTraffic).header := by
  have counts : ∀ t ∈ crowdedTraffic, t.Counts := by
    intro t ht
    simp only [crowdedTraffic, List.mem_cons, List.not_mem_nil, or_false] at ht
    rcases ht with rfl | rfl | rfl <;> exact ⟨by decide, by decide, by decide⟩
  obtain ⟨closed, order⟩ := ofList_closedForm counts
  have apart : ∀ e, ¬ ExpireAt crowdedTraffic e := by
    rintro e ⟨-, -, all⟩
    have first := all _ List.mem_cons_self
    have last := all { up := 3, down := 0, total := 200, expiryTime := -86400000 }
      (by simp [crowdedTraffic])
    exact absurd (first.trans last.symm) (by decide)
  refine ⟨?_, ?_, ?_, closed.no_expiry apart, order _ (List.reverse_perm _)⟩
  · exact Int64.toInt_inj.1 (closed.up.trans (by decide))
  · exact Int64.toInt_inj.1 (closed.down.trans (by decide))
  · exact Int64.toInt_inj.1 ((closed.limited (by decide)).trans (by decide))

end TrafficSummary
end ProxyFeed
