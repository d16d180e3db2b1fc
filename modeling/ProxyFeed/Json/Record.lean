import ProxyFeed.Json.Raw

/-!
# Reading records

A record is written as an object, or as an array of its fields in declaration order.

## What is here

* `RawJson.fields?` — the trees of the declared fields, absent ones included.  Members under other
  names are passed over, whatever they hold; a declared field that appears twice, a key that is not
  text, or an array with too many items is an error.
* `required` and `orElse` — a field that must be there, and one with a default.
* `RawJson.text?`, `RawJson.int64?`, … — leaves of exactly one type: no value is converted, and a
  float is never an integer.
-/

set_option autoImplicit false
namespace ProxyFeed
namespace RawJson

/-- The tree of the first member with a key. -/
def member? (ms : List (Option String × RawJson)) (name : String) : Option RawJson :=
  (ms.find? (·.1 = some name)).map (·.2)

/-- The trees of the declared fields, in their order. -/
def fields? (names : List String) : RawJson → Option (List (Option RawJson))
  | .arr items =>
    if items.length ≤ names.length then
      some (items.map some ++ List.replicate (names.length - items.length) none)
    else none
  | .obj ms =>
    if ms.all (·.1.isSome) && names.all fun name => ms.countP (·.1 = some name) ≤ 1 then
      some (names.map (member? ms))
    else none
  | _ => none

/-- A field that must be there. -/
def required {α : Type} (read : RawJson → Option α) (field : Option RawJson) : Option α :=
  field.bind read

/-- A field with a value of its own when it is absent. -/
def orElse {α : Type} (default : α) (read : RawJson → Option α) : Option RawJson → Option α
  | none => some default
  | some v => read v

/-- A string. -/
def text? : RawJson → Option String
  | .str t => t
  | _ => none

/-- A boolean. -/
def bool? : RawJson → Option Bool
  | .bool b => some b
  | _ => none

/-- An integer between two bounds. -/
def intBetween? (low high : Int) : RawJson → Option Int
  | .num (some (.int n)) => if low ≤ n ∧ n ≤ high then some n else none
  | _ => none

/-- A 64-bit signed integer. -/
def int64? (v : RawJson) : Option Int64 :=
  (v.intBetween? Int64.minValue.toInt Int64.maxValue.toInt).map Int64.ofInt

/-- A 16-bit unsigned integer. -/
def uint16? (v : RawJson) : Option UInt16 :=
  (v.intBetween? 0 0xFFFF).map fun n => UInt16.ofNat n.toNat

/-- A 32-bit unsigned integer. -/
def uint32? (v : RawJson) : Option UInt32 :=
  (v.intBetween? 0 0xFFFFFFFF).map fun n => UInt32.ofNat n.toNat

/-- A 64-bit unsigned integer. -/
def uint64? (v : RawJson) : Option UInt64 :=
  (v.intBetween? 0 0xFFFFFFFFFFFFFFFF).map fun n => UInt64.ofNat n.toNat

/-- An array whose items are all of one kind. -/
def list? {α : Type} (read : RawJson → Option α) : RawJson → Option (List α)
  | .arr items => items.mapM read
  | _ => none

end RawJson
end ProxyFeed
