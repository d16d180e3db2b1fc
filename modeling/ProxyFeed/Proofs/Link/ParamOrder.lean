import ProxyFeed.Link.Basic
import ProxyFeed.Proofs.Link.ParamSet
import Mathlib.Data.List.Nodup

/-!
# Keys of parameter sets differ

Every operation on a parameter set keeps its keys apart, so sorting puts them in strictly increasing
order.  The writers of links do nothing but call these operations.

## What is here

* `ParamSet.Distinct` — the invariant, with one lemma for each operation and each writer.
* `ParamSet.sorted_perm` and `ParamSet.Distinct.increasing` — sorting keeps the entries, and puts
  their keys in strictly increasing order.
* `ParamSet.Distinct.mem_sorted_iff` — an entry is there exactly if its key has that value.
* `ParamSet.Distinct.sorted_eq` — sets that are the same map list the same entries.
* `ParamSet.Distinct.set_eq_self` — setting a value again changes nothing.
-/

set_option autoImplicit false
namespace ProxyFeed
namespace ParamSet

/-! ## Operations -/

/-- No key has two entries. -/
def Distinct (s : ParamSet) : Prop := (s.entries.map (·.1)).Nodup

theorem distinct_empty : empty.Distinct := List.nodup_nil

variable {s : ParamSet}

theorem Distinct.set (h : s.Distinct) (key : String) (v : ParamValue) :
    (s.set key v).Distinct := by
  rw [Distinct, entries_set]
  exact Keyed.nodup_keys_put h key v

theorem Distinct.setText (h : s.Distinct) (key v : String) : (s.setText key v).Distinct :=
  h.set key _

theorem Distinct.setText? (h : s.Distinct) (key : String) (v : Option String) :
    (s.setText? key v).Distinct := by
  cases v with
  | none => exact h
  | some v => exact h.setText key v

theorem Distinct.removeAll (h : s.Distinct) (keys : List String) : (s.removeAll keys).Distinct :=
  h.sublist (List.filter_sublist.map _)

theorem Distinct.removeTlsIdentity (h : s.Distinct) : s.removeTlsIdentity.Distinct :=
  h.removeAll _

/-! ## Sorting -/

theorem insertEntry_perm (e : String × ParamValue) (es : List (String × ParamValue)) :
    (insertEntry e es).Perm (e :: es) := by
  induction es with
  | nil => exact .refl _
  | cons x xs ih =>
    rw [insertEntry]
    split
    · exact .refl _
    · exact (ih.cons x).trans (.swap e x xs)

/-- Sorting neither adds nor drops an entry. -/
theorem sorted_perm (s : ParamSet) : s.sorted.Perm s.entries := by
  rw [sorted]
  induction s.entries with
  | nil => exact .refl _
  | cons e es ih => exact (insertEntry_perm e _).trans (ih.cons e)

/-- Keys in the order of their bytes, equal ones next to each other. -/
def Ascending (es : List (String × ParamValue)) : Prop := es.Pairwise fun x y => utf8 x.1 ≤ utf8 y.1

theorem ascending_insertEntry (e : String × ParamValue) {es : List (String × ParamValue)}
    (h : Ascending es) : Ascending (insertEntry e es) := by
  induction es with
  | nil => exact List.pairwise_singleton _ _
  | cons x xs ih =>
    obtain ⟨first, rest⟩ := List.pairwise_cons.1 h
    rw [insertEntry]
    split
    · next le =>
      have le : utf8 e.1 ≤ utf8 x.1 := by simpa [keyLe] using le
      refine List.pairwise_cons.2 ⟨fun y hy => ?_, h⟩
      rcases List.mem_cons.1 hy with rfl | later
      · exact le
      · exact List.le_trans le (first y later)
    · next gt =>
      have ge : utf8 x.1 ≤ utf8 e.1 := by
        rcases List.le_total (utf8 x.1) (utf8 e.1) with ge | le
        · exact ge
        · exact absurd (by simpa [keyLe] using le) gt
      refine List.pairwise_cons.2 ⟨fun y hy => ?_, ih rest⟩
      rcases List.mem_cons.1 ((insertEntry_perm e xs).mem_iff.1 hy) with rfl | later
      · exact ge
      · exact first y later

theorem ascending_sorted (s : ParamSet) : Ascending s.sorted := by
  rw [sorted]
  induction s.entries with
  | nil => exact List.Pairwise.nil
  | cons e es ih => exact ascending_insertEntry e ih

/-- **Sorted keys increase strictly.** -/
theorem Distinct.increasing (h : s.Distinct) :
    s.sorted.Pairwise fun x y => utf8 x.1 < utf8 y.1 := by
  have apart : s.sorted.Pairwise fun x y => x.1 ≠ y.1 := by
    have nodup : (s.sorted.map (·.1)).Nodup := (s.sorted_perm.map _).nodup_iff.2 h
    exact List.pairwise_map.1 nodup
  refine (s.ascending_sorted.and apart).imp fun both => ?_
  exact Std.lt_of_le_of_ne both.1 fun same => both.2 (utf8_injective same)

/-- An entry is listed exactly if its key has its value. -/
theorem Distinct.mem_sorted_iff (h : s.Distinct) (key : String) (v : ParamValue) :
    (key, v) ∈ s.sorted ↔ s.get? key = some v := by
  rw [s.sorted_perm.mem_iff]
  exact (Keyed.get?_eq_some_iff h).symm

/-- **Sets that are the same map list the same entries.** -/
theorem Distinct.sorted_eq {s t : ParamSet} (hs : s.Distinct) (ht : t.Distinct)
    (same : ∀ key, s.get? key = t.get? key) : s.sorted = t.sorted := by
  have nodup {u : ParamSet} (h : u.Distinct) : u.sorted.Nodup := by
    refine h.increasing.imp ?_
    rintro e _ lt rfl
    exact List.lt_irrefl _ lt
  have perm : s.sorted.Perm t.sorted := by
    refine (List.perm_ext_iff_of_nodup (nodup hs) (nodup ht)).2 fun ⟨key, v⟩ => ?_
    rw [hs.mem_sorted_iff, ht.mem_sorted_iff, same]
  exact perm.eq_of_pairwise (fun _ _ _ _ lt gt => absurd gt (List.lt_asymm lt)) hs.increasing
    ht.increasing

/-- Setting the value that is there changes nothing. -/
theorem Distinct.set_eq_self (h : s.Distinct) {key : String} {v : ParamValue}
    (found : s.get? key = some v) : s.set key v = s := by
  have entries : (s.set key v).entries = s.entries :=
    (entries_set s key v).trans (Keyed.put_eq_self h found)
  exact congrArg ParamSet.mk entries

end ParamSet

/-! ## Writers -/

theorem Transport.distinct_writeQuery {out : ParamSet} (h : out.Distinct) (t : Transport)
    (network : Network) : (t.writeQuery network out).Distinct := by
  cases network with
  | tcp =>
    rw [writeQuery]
    split
    · exact ((h.setText? _ _).setText? _ _).setText _ _
    · exact h
  | kcp => exact (h.setText? _ _).setText? _ _
  | ws | httpUpgrade | xhttp => exact (h.setText? _ _).setText? _ _
  | grpc =>
    rw [writeQuery]
    split
    · exact ((h.setText? _ _).setText? _ _).setText _ _
    · exact (h.setText? _ _).setText? _ _
  | other tag => exact h

theorem Transport.distinct_writeDocument {out : ParamSet} (h : out.Distinct) (t : Transport)
    (network : Network) : (t.writeDocument network out).Distinct := by
  cases network with
  | tcp => exact ((h.setText? _ _).setText? _ _).setText? _ _
  | kcp => exact (h.setText? _ _).setText? _ _
  | ws | httpUpgrade | xhttp => exact (h.setText? _ _).setText? _ _
  | grpc =>
    rw [writeDocument]
    split
    · exact ((h.setText? _ _).setText? _ _).setText _ _
    · exact (h.setText? _ _).setText? _ _
  | other tag => exact h

namespace Security

theorem distinct_writeCommon {out : ParamSet} (h : out.Distinct) (s : Security) :
    (s.writeCommon out).Distinct := by
  have identity := ((h.setText? "alpn" s.alpn).setText? "sni" s.sni).setText? "fp" s.fp
  rw [writeCommon]
  refine ParamSet.Distinct.setText? (.setText? (.setText? ?_ _ _) _ _) _ _
  split
  · exact identity.setText _ _
  · exact identity

theorem distinct_writeQuery {out : ParamSet} (h : out.Distinct) (s : Security) :
    (s.writeQuery out).Distinct :=
  (s.distinct_writeCommon (h.setText _ _)).setText? _ _

theorem distinct_writeDocument {out : ParamSet} (h : out.Distinct) (s : Security) :
    (s.writeDocument out).Distinct := by
  rw [writeDocument]
  refine s.distinct_writeCommon ?_
  split
  · exact h
  · exact h.setText _ _

end Security

namespace Link

theorem distinct_uriBase (stream : Json) (security : Security) :
    (uriBase stream security).Distinct :=
  security.distinct_writeQuery
    (Transport.distinct_writeQuery (ParamSet.distinct_empty.setText _ _) _ _)

end Link
end ProxyFeed
