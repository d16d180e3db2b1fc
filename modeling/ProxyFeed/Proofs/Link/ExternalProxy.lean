import ProxyFeed.Link.ExternalProxy
import ProxyFeed.Proofs.Json.Record
import Mathlib.Data.List.Forall2

/-!
# Records of external proxies

Stream settings list external proxies as records that nobody has checked.  A record that is not one
of an external proxy is passed over; this file says which ones are, and that the others do not
matter.

## What is here

* `ExternalProxy.Reads` — what a record says of an external proxy, and
  `ExternalProxy.ofRaw?_eq_some_iff`, by which the reader accepts just that.
* `ExternalProxy.valid` — the records in stream settings that are ones of an external proxy.
* `ExternalProxy.reads_valid_iff` — the external proxies of stream settings are those that the valid
  records say, in their order.
-/

set_option autoImplicit false
namespace ProxyFeed
namespace ExternalProxy

/-- What a record says of an external proxy.  Destination and port have to be there, a string and an
integer of 16 bits; the other two fields may be absent, but nothing else than strings. -/
structure Reads (record : Json) (p : ExternalProxy) : Prop where
  fields : record.HasFields fieldNames
  forceTls : record.field? fieldNames "forceTls" = none ∧ p.forceTls = "" ∨
    record.field? fieldNames "forceTls" = some (.str p.forceTls)
  dest : record.field? fieldNames "dest" = some (.str p.dest)
  port : record.field? fieldNames "port" = some (.ofInt p.port.toNat)
  remark : record.field? fieldNames "remark" = none ∧ p.remark = "" ∨
    record.field? fieldNames "remark" = some (.str p.remark)

/-- **The reader accepts just the records of external proxies.** -/
theorem ofRaw?_eq_some_iff {record : Json} {p : ExternalProxy} :
    ofRaw? record.raw = some p ↔ Reads record p := by
  have nodup : fieldNames.Nodup := by decide
  have fields := RawJson.fields?_of_value nodup record
  by_cases has : record.HasFields fieldNames
  · rw [if_pos has] at fields
    simp only [ofRaw?, fields, Option.bind_eq_bind, Option.bind_some]
    simp only [fieldNames, List.map_cons, List.map_nil, Option.pure_def,
      Option.bind_eq_some_iff, RawJson.orElse_text?_eq_some_iff, RawJson.required_eq_some_iff,
      RawJson.text?_eq_some_iff, RawJson.uint16?_eq_some_iff, Option.some.injEq]
    constructor
    · rintro ⟨forceTls, forced, dest, ⟨_, at_dest, rfl⟩, port, ⟨_, at_port, rfl⟩, remark, named,
        rfl⟩
      exact ⟨has, forced, at_dest, at_port, named⟩
    · intro h
      exact ⟨p.forceTls, h.forceTls, p.dest, ⟨_, h.dest, rfl⟩, p.port, ⟨_, h.port, rfl⟩, p.remark,
        h.remark, rfl⟩
  · rw [if_neg has] at fields
    refine iff_of_false ?_ fun h => has h.fields
    simp [ofRaw?, fields]

/-- Is a record one of an external proxy? -/
def IsValid (record : Json) : Prop := ∃ p, Reads record p

theorem isValid_iff {record : Json} : IsValid record ↔ (ofRaw? record.raw).isSome := by
  simp only [IsValid, ← ofRaw?_eq_some_iff, Option.isSome_iff_exists]

instance : DecidablePred IsValid := fun _ => decidable_of_iff _ isValid_iff.symm

/-- The records listed in stream settings. -/
def records (stream : Json) : List Json := ((stream.get? "externalProxy").bind Json.arr?).getD []

/-- The records listed in stream settings that are ones of an external proxy. -/
def valid (stream : Json) : List Json := (records stream).filter IsValid

theorem reads_filter_iff {list : List Json} {proxies : List ExternalProxy} :
    List.Forall₂ Reads (list.filter IsValid) proxies ↔
      proxies = list.filterMap fun record => ofRaw? record.raw := by
  induction list generalizing proxies with
  | nil => simp
  | cons record list ih =>
    rw [List.filter_cons, List.filterMap_cons]
    by_cases here : IsValid record
    · obtain ⟨p, one⟩ := here
      have read := ofRaw?_eq_some_iff.2 one
      rw [if_pos (decide_eq_true ⟨p, one⟩), read, List.forall₂_cons_left_iff]
      simp only [← ofRaw?_eq_some_iff, read, Option.some.injEq]
      constructor
      · rintro ⟨_, rest, rfl, later, rfl⟩
        rw [ih.1 later]
      · rintro rfl
        exact ⟨p, _, rfl, ih.2 rfl, rfl⟩
    · have unread : ofRaw? record.raw = none := by
        rwa [isValid_iff, Option.not_isSome_iff_eq_none] at here
      rw [if_neg (by simpa using here), unread, ih]

/-- **The external proxies of stream settings are those that the valid records say.** -/
theorem reads_valid_iff {stream : Json} {proxies : List ExternalProxy} :
    List.Forall₂ Reads (valid stream) proxies ↔ proxies = listOfStream stream :=
  reads_filter_iff

theorem mem_listOfStream_iff {stream : Json} {p : ExternalProxy} :
    p ∈ listOfStream stream ↔ ∃ record ∈ valid stream, Reads record p := by
  rw [listOfStream, List.mem_filterMap]
  simp only [ofRaw?_eq_some_iff, valid, List.mem_filter, decide_eq_true_eq]
  constructor
  · rintro ⟨record, listed, reads⟩
    exact ⟨record, ⟨listed, p, reads⟩, reads⟩
  · rintro ⟨record, ⟨listed, -⟩, reads⟩
    exact ⟨record, listed, reads⟩

theorem listOfStream_congr {v w : Json} (same : valid v = valid w) :
    listOfStream v = listOfStream w :=
  reads_valid_iff.1 (same ▸ reads_valid_iff.2 rfl)

theorem listOfStream_eq_nil_iff {stream : Json} : listOfStream stream = [] ↔ valid stream = [] := by
  rw [eq_comm, ← reads_valid_iff, List.forall₂_nil_right_iff]

end ExternalProxy
end ProxyFeed
