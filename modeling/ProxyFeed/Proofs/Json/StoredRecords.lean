import ProxyFeed.Cache.Basic
import ProxyFeed.Inbound.Basic
import ProxyFeed.Proofs.Json.Record
import ProxyFeed.Settings.Basic

/-!
# Records survive their text

A record is written as an object of its fields, and may be given as an array of their values too.
From either text it is read back as it was.  The clients of a listener are found in its settings
whatever else stands there, numbers that are no integers and names that are repeated included.

## What is here

* `RawJson.fields?_zip` and `RawJson.fields?_values` — the fields of a record in its two forms.
* `RawJson.int64?_ofInt`, `RawJson.uint16?_ofInt`, … — each kind of leaf is read back.
* `RawJson.ReadsRecords` — a reader takes every record from both of its texts.
* `RawJson.readsRecords_of_fields` — for that it is enough to read a record from its fields.
* `stored_records_survive` — the readers of all records do.
-/

set_option autoImplicit false
namespace ProxyFeed

namespace Json

theorem integralItems_iff {items : List Json} :
    IntegralItems items ↔ ∀ item ∈ items, item.Integral := by
  induction items with
  | nil => simp [IntegralItems]
  | cons item items ih => rw [IntegralItems, ih, List.forall_mem_cons]

@[simp] theorem integral_str (s : String) : (str s).Integral := trivial

@[simp] theorem integral_bool (b : Bool) : (bool b).Integral := trivial

@[simp] theorem integral_ofInt (n : Int64) : (ofInt n.toInt).Integral := Number.fits_toInt n

theorem integral_ofNat {n : Nat} (h : n ≤ 0xFFFFFFFFFFFFFFFF) : (ofInt n).Integral := by
  constructor <;> omega

@[simp] theorem integral_uint16 (n : UInt16) : (ofInt n.toNat).Integral := by
  have small := n.toNat_lt
  exact integral_ofNat (by omega)

@[simp] theorem integral_uint32 (n : UInt32) : (ofInt n.toNat).Integral := by
  have small := n.toNat_lt
  exact integral_ofNat (by omega)

@[simp] theorem integral_uint64 (n : UInt64) : (ofInt n.toNat).Integral := by
  have small := n.toNat_lt
  exact integral_ofNat (by omega)

theorem writtenMembers_eq_map (ms : List (String × Json)) :
    writtenMembers ms = ms.map fun m => (some m.1, m.2.written) := by
  induction ms with
  | nil => rfl
  | cons m ms ih => rw [writtenMembers, ih, List.map_cons]

theorem integral_zip {names : List String} {values : List Json} (h : ∀ v ∈ values, v.Integral) :
    (obj (names.zip values)).Integral :=
  integralMembers_iff.2 fun m hm => h m.2 (List.of_mem_zip hm).2

/-- The names of fields are the keys of the object that they make with their values. -/
theorem keys_zip {names : List String} {values : List Json}
    (length : values.length = names.length) : Members.keys (names.zip values) = names :=
  List.map_fst_zip (Nat.le_of_eq length.symm)

end Json

namespace RawJson

open Json (rawItems)

/-! ## Fields -/

section Fields

variable {names : List String} {values : List Json} (length : values.length = names.length)

include length

/-- **The object of the fields shows each of them.** -/
theorem fields?_zip (nodup : names.Nodup) : (Json.obj (names.zip values)).raw.fields? names =
    some (values.map fun v => some v.raw) := by
  have distinct : Members.keys (names.zip values) |>.Nodup := (Json.keys_zip length).symm ▸ nodup
  rw [fields?_raw distinct, Option.some.injEq]
  refine List.ext_getElem (by simp [length]) fun i hi hi' => ?_
  rw [List.getElem_map, List.getElem_map]
  have in_names : i < names.length := by simpa using hi
  have in_values : i < values.length := length ▸ in_names
  have there : (names[i], values[i]) ∈ names.zip values :=
    List.mem_iff_getElem.2 ⟨i, by simp [length, in_names], List.getElem_zip⟩
  rw [show (Json.obj (names.zip values)).get? names[i] = some values[i] from
    (Members.get?_eq_some_iff distinct).2 there]
  rfl

/-- **The array of their values does too.** -/
theorem fields?_values : (Json.arr values).raw.fields? names =
    some (values.map fun v => some v.raw) := by
  rw [Json.raw, fields?, rawItems_eq_map, List.length_map, length, if_pos (Nat.le_refl _),
    Nat.sub_self, List.replicate_zero, List.append_nil, List.map_map]
  rfl

end Fields

/-! ## Leaves -/

theorem intBetween?_ofInt {low high n : Int} (above : low ≤ n) (below : n ≤ high) :
    (Json.ofInt n).raw.intBetween? low high = some n := by
  rw [Json.ofInt, Json.raw, intBetween?, if_pos ⟨above, below⟩]

@[simp] theorem int64?_ofInt (n : Int64) : (Json.ofInt n.toInt).raw.int64? = some n := by
  rw [int64?, intBetween?_ofInt n.minValue_le_toInt n.toInt_le, Option.map_some, Int64.ofInt_toInt]

@[simp] theorem uint16?_ofInt (n : UInt16) : (Json.ofInt n.toNat).raw.uint16? = some n := by
  have small := n.toNat_lt
  rw [uint16?, intBetween?_ofInt (by omega) (by omega), Option.map_some, Int.toNat_natCast,
    UInt16.ofNat_toNat]

@[simp] theorem uint32?_ofInt (n : UInt32) : (Json.ofInt n.toNat).raw.uint32? = some n := by
  have small := n.toNat_lt
  rw [uint32?, intBetween?_ofInt (by omega) (by omega), Option.map_some, Int.toNat_natCast,
    UInt32.ofNat_toNat]

@[simp] theorem uint64?_ofInt (n : UInt64) : (Json.ofInt n.toNat).raw.uint64? = some n := by
  have small := n.toNat_lt
  rw [uint64?, intBetween?_ofInt (by omega) (by omega), Option.map_some, Int.toNat_natCast,
    UInt64.ofNat_toNat]

@[simp] theorem text?_str (s : String) : (Json.str s).raw.text? = some s := rfl

@[simp] theorem bool?_bool (b : Bool) : (Json.bool b).raw.bool? = some b := rfl

@[simp] theorem required_some {α : Type} (read : RawJson → Option α) (v : RawJson) :
    required read (some v) = read v := rfl

@[simp] theorem orElse_some {α : Type} (default : α) (read : RawJson → Option α) (v : RawJson) :
    orElse default read (some v) = read v := rfl

/-- Records are read one by one. -/
theorem list?_map {α : Type} {read? : RawJson → Option α} {toJson : α → Json}
    (read : ∀ a, read? (toJson a).raw = some a) (records : List α) :
    (Json.arr (records.map toJson)).raw.list? read? = some records := by
  rw [Json.raw, list?]
  induction records with
  | nil => rfl
  | cons a records ih =>
    rw [List.map_cons, rawItems, List.mapM_cons, read, ih]
    rfl

/-! ## Whole records -/

/-- A reader takes every record from what is written of it: the object of its fields, or the array
of their values. -/
def ReadsRecords {α : Type} (read? : RawJson → Option α) (toJson : α → Json)
    (fieldValues : α → List Json) : Prop :=
  ∀ a, (parse? (toJson a).compact).bind read? = some a ∧
    (parse? (Json.arr (fieldValues a)).compact).bind read? = some a

section ReadsRecords

variable {α : Type} {read? : RawJson → Option α} {names : List String} {fieldValues : α → List Json}

/-- **A reader that takes a record from its fields takes it from both of its texts.** -/
theorem readsRecords_of_fields (nodup : names.Nodup)
    (length : ∀ a, (fieldValues a).length = names.length)
    (integral : ∀ a, ∀ v ∈ fieldValues a, v.Integral)
    (read : ∀ a tree, fields? names tree = some ((fieldValues a).map fun v => some v.raw) →
      read? tree = some a) :
    ReadsRecords read? (fun a => .obj (names.zip (fieldValues a))) fieldValues := by
  intro a
  have object : (Json.obj (names.zip (fieldValues a))).Integral := Json.integral_zip (integral a)
  have array : (Json.arr (fieldValues a)).Integral := Json.integralItems_iff.2 (integral a)
  constructor
  · rw [parse?_compact object, Option.bind_some, read a _ (fields?_zip (length a) nodup)]
  · rw [parse?_compact array, Option.bind_some, read a _ (fields?_values (length a))]

end ReadsRecords

end RawJson

/-! ## Each record

A reader is followed through the fields of its record once; both texts, and the lists that hold such
records, are then the lemmas above. -/

namespace Traffic

theorem ofRaw?_of_fields (t : Traffic) {tree : RawJson}
    (fields : tree.fields? fieldNames = some (t.fieldValues.map fun v => some v.raw)) :
    ofRaw? tree = some t := by
  simp [ofRaw?, fields, fieldValues]

theorem integral_fieldValues (t : Traffic) : ∀ v ∈ t.fieldValues, v.Integral := by
  simp [fieldValues]

theorem ofRaw?_toJson (t : Traffic) : ofRaw? t.toJson.raw = some t :=
  ofRaw?_of_fields t (RawJson.fields?_zip rfl (by decide))

theorem readsRecords : RawJson.ReadsRecords ofRaw? toJson fieldValues :=
  RawJson.readsRecords_of_fields (by decide) (fun _ => rfl) integral_fieldValues
    fun t _ => ofRaw?_of_fields t

end Traffic

namespace Client

theorem ofRaw?_of_fields (c : Client) {tree : RawJson}
    (fields : tree.fields? fieldNames = some (c.fieldValues.map fun v => some v.raw)) :
    ofRaw? tree = some c := by
  simp [ofRaw?, fields, fieldValues]

theorem integral_fieldValues (c : Client) : ∀ v ∈ c.fieldValues, v.Integral := by
  simp [fieldValues]

theorem ofRaw?_toJson (c : Client) : ofRaw? c.toJson.raw = some c :=
  ofRaw?_of_fields c (RawJson.fields?_zip rfl (by decide))

theorem readsRecords : RawJson.ReadsRecords ofRaw? toJson fieldValues :=
  RawJson.readsRecords_of_fields (by decide) (fun _ => rfl) integral_fieldValues
    fun c _ => ofRaw?_of_fields c

/-- **A list of clients is found in settings under its name**, whatever stands there under other
names. -/
theorem listOfText?_around {before after : Members} (first : "clients" ∉ before.keys)
    (last : "clients" ∉ after.keys) (clients : List Client) :
    listOfText? (Json.obj (before ++ ("clients", .arr (clients.map toJson)) :: after)).compact =
      some clients := by
  have once : ∀ name ∈ ["clients"],
      ((before ++ ("clients", Json.arr (clients.map toJson)) :: after).map Prod.fst).count name ≤
        1 := by
    have none_before := List.count_eq_zero_of_not_mem first
    have none_after := List.count_eq_zero_of_not_mem last
    rw [Members.keys] at none_before none_after
    refine List.forall_mem_singleton.2 ?_
    rw [List.map_append, List.map_cons, List.count_append, List.count_cons_self, none_before,
      none_after]
  have found : Members.get? (before ++ ("clients", .arr (clients.map toJson)) :: after)
      "clients" = some (.arr (clients.map toJson)) := by
    have absent : before.get? "clients" = none := Members.get?_eq_none_iff.2 first
    rw [Members.get?, Option.map_eq_none_iff] at absent
    rw [Members.get?, List.find?_append, absent, Option.none_or, ← Members.get?,
      Members.get?_cons, if_pos rfl]
  have integral : (Json.arr (clients.map toJson)).Integral := Json.integralItems_iff.2
    (List.forall_mem_map.2 fun c _ => Json.integral_zip c.integral_fieldValues)
  rw [listOfText?, RawJson.parse?_compact_eq_written, Option.bind_some, Json.written,
    Json.writtenMembers_eq_map, listOfRaw?, RawJson.fields?_map, if_pos once, List.map_singleton,
    ← Members.get?, found, Option.map_some, Json.written_eq_raw _ integral]
  exact RawJson.list?_map ofRaw?_toJson clients

end Client

namespace Inbound

theorem ofRaw?_of_fields (i : Inbound) {tree : RawJson}
    (fields : tree.fields? fieldNames = some (i.fieldValues.map fun v => some v.raw)) :
    ofRaw? tree = some i := by
  simp [ofRaw?, fields, fieldValues, RawJson.list?_map Traffic.ofRaw?_toJson]

theorem integral_fieldValues (i : Inbound) : ∀ v ∈ i.fieldValues, v.Integral := by
  have stats : (Json.arr (i.clientStats.map Traffic.toJson)).Integral := Json.integralItems_iff.2
    (List.forall_mem_map.2 fun t _ => Json.integral_zip t.integral_fieldValues)
  simp [fieldValues, stats]

theorem readsRecords : RawJson.ReadsRecords ofRaw? toJson fieldValues :=
  RawJson.readsRecords_of_fields (by decide) (fun _ => rfl) integral_fieldValues
    fun i _ => ofRaw?_of_fields i

end Inbound

namespace CacheEntry

theorem ofRaw?_of_fields (e : CacheEntry) {tree : RawJson}
    (fields : tree.fields? fieldNames = some (e.fieldValues.map fun v => some v.raw)) :
    ofRaw? tree = some e := by
  simp [ofRaw?, fields, fieldValues]

theorem integral_fieldValues (e : CacheEntry) : ∀ v ∈ e.fieldValues, v.Integral := by
  simp [fieldValues]

theorem readsRecords : RawJson.ReadsRecords ofRaw? toJson fieldValues :=
  RawJson.readsRecords_of_fields (by decide) (fun _ => rfl) integral_fieldValues
    fun e _ => ofRaw?_of_fields e

end CacheEntry

namespace Settings

theorem ofRaw?_of_fields (s : Settings) {tree : RawJson}
    (fields : tree.fields? fieldNames = some (s.fieldValues.map fun v => some v.raw)) :
    ofRaw? tree = some s := by
  simp [ofRaw?, fields, fieldValues]

theorem integral_fieldValues (s : Settings) : ∀ v ∈ s.fieldValues, v.Integral := by
  simp [fieldValues]

theorem readsRecords : RawJson.ReadsRecords ofRaw? toJson fieldValues :=
  RawJson.readsRecords_of_fields (by decide) (fun _ => rfl) integral_fieldValues
    fun s _ => ofRaw?_of_fields s

end Settings

/-- **Every record survives its text**, and so do the clients that settings hold among other
members. -/
theorem stored_records_survive :
    RawJson.ReadsRecords Inbound.ofRaw? Inbound.toJson Inbound.fieldValues ∧
    RawJson.ReadsRecords Client.ofRaw? Client.toJson Client.fieldValues ∧
    RawJson.ReadsRecords Traffic.ofRaw? Traffic.toJson Traffic.fieldValues ∧
    RawJson.ReadsRecords CacheEntry.ofRaw? CacheEntry.toJson CacheEntry.fieldValues ∧
    RawJson.ReadsRecords Settings.ofRaw? Settings.toJson Settings.fieldValues ∧
    ∀ (clients : List Client) (before after : Members), "clients" ∉ before.keys →
      "clients" ∉ after.keys → ∀ inbound : Inbound, inbound.settings =
        (Json.obj (before ++ ("clients", .arr (clients.map Client.toJson)) :: after)).compact →
      inbound.clients? = some clients := by
  refine ⟨Inbound.readsRecords, Client.readsRecords, Traffic.readsRecords, CacheEntry.readsRecords,
    Settings.readsRecords, ?_⟩
  intro clients before after first last inbound settings
  rw [Inbound.clients?, settings, Client.listOfText?_around first last]

/-! ## Clients among other members -/

/-- Two clients; the credential of the first needs every kind of escape, and that of the second lies
beyond the first 65536 characters. -/
def oddClients : List Client :=
  [{ id := "a\"b\\c\n\x01", email := "kim", enable := true, subId := "home" }, { id := "🔑" }]

/-- Settings with these clients between a number that is no integer, a name that is repeated, and a
list inside a list. -/
def oddSettings : String :=
  "\x7b\"ratio\":1.5,\"clients\":[" ++
    "\x7b\"id\":\"a\\\"b\\\\c\\n\\u0001\",\"password\":\"\",\"email\":\"kim\"," ++
    "\"security\":\"\",\"enable\":true,\"flow\":\"\",\"subId\":\"home\"\x7d," ++
    "\x7b\"id\":\"🔑\",\"password\":\"\",\"email\":\"\"," ++
    "\"security\":\"\",\"enable\":false,\"flow\":\"\",\"subId\":\"\"\x7d]," ++
    "\"note\":null,\"note\":[[]]\x7d"

theorem stored_records_survive_odd :
    "clients" ∉ Members.keys [("ratio", .num (.float false ⟨6755399441055744, -52⟩))] ∧
    "clients" ∉ Members.keys [("note", .null), ("note", .arr [.arr []])] ∧
    ({ settings := oddSettings } : Inbound).clients? = some oddClients := by
  obtain ⟨-, -, -, -, -, clients⟩ := stored_records_survive
  have first : "clients" ∉
      Members.keys [("ratio", .num (.float false ⟨6755399441055744, -52⟩))] := by
    decide
  have last : "clients" ∉ Members.keys [("note", .null), ("note", .arr [.arr []])] := by decide
  exact ⟨first, last, clients oddClients _ _ first last _ (by decide +kernel)⟩

end ProxyFeed
