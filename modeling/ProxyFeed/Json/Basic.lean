import ProxyFeed.Number.Binary64

/-!
# JSON values

Listeners keep their settings as JSON texts of no fixed shape, so a dynamic value type is part of
the domain.

## What is here

* `Json` — a value; an object is a list of members in document order.
* `Members` — the members of an object, with lookup, insertion in place and removal.
* `Json.get?`, `Json.str?`, … — views that answer `none` on a value of another shape, which is how a
  mistyped setting reads as an absent one.

`Members.erase` fills the freed place with the last member: the order of members is visible in every
text written afterwards.
-/

set_option autoImplicit false
namespace ProxyFeed

/-- A number: an integer that fits 64 bits, signed or unsigned, or else a binary64 value. -/
inductive Json.Number where
  | int (n : Int)
  | float (negative : Bool) (magnitude : Binary64)
deriving DecidableEq, Repr

/-- A JSON value. -/
inductive Json where
  | null
  | bool (b : Bool)
  | num (n : Json.Number)
  | str (s : String)
  | arr (items : List Json)
  | obj (members : List (String × Json))
deriving Inhabited, Repr

/-- The members of an object in document order. -/
abbrev Members := List (String × Json)

namespace Members

/-- The value of the first member with a key. -/
def get? (ms : Members) (key : String) : Option Json := (ms.find? (·.1 = key)).map (·.2)

/-- Gives a key a value: in place if the key is there, at the end if it is not. -/
def set (ms : Members) (key : String) (v : Json) : Members :=
  if ms.any (·.1 = key) then ms.map fun m => if m.1 = key then (key, v) else m
  else ms ++ [(key, v)]

/-- Members read one after the other: a repeated key keeps its first place and its last value. -/
def ofList (ms : List (String × Json)) : Members := ms.foldl (fun acc m => acc.set m.1 m.2) []

/-- Removes the member with a key; the last member takes the freed place. -/
def erase (ms : Members) (key : String) : Members :=
  if ms.any (·.1 = key) then
    match ms.getLast? with
    | some last =>
      if last.1 = key then ms.dropLast
      else ms.dropLast.map fun m => if m.1 = key then last else m
    | none => ms
  else ms

end Members

namespace Json

/-- The value of a member of an object. -/
def get? (key : String) : Json → Option Json
  | .obj ms => Members.get? ms key
  | _ => none

/-- The text of a string. -/
def str? : Json → Option String
  | .str s => some s
  | _ => none

/-- The truth value of a boolean. -/
def bool? : Json → Option Bool
  | .bool b => some b
  | _ => none

/-- The items of an array. -/
def arr? : Json → Option (List Json)
  | .arr items => some items
  | _ => none

/-- The members of an object. -/
def obj? : Json → Option Members
  | .obj ms => some ms
  | _ => none

/-- The text of a string member. -/
def text? (v : Json) (key : String) : Option String := (v.get? key).bind str?

/-- The text of a string member that is not empty. -/
def nonEmpty? (v : Json) (key : String) : Option String := (v.text? key).filter (· ≠ "")

/-- An integer as a value. -/
def ofInt (n : Int) : Json := .num (.int n)

end Json
end ProxyFeed
