import ProxyFeed.Json.Token

/-!
# JSON texts as written

Different readers of one text disagree about repeated members, unreadable leaves and depth.  What
they share is the tree as written, which this file builds from the tokens.

## What is here

* `RawJson` — a tree that keeps repeated members and leaves without a value.
* `Assembly` — the machine that builds the tree, one token at a time.
* `RawJson.parse?` — the tree of a text.
* `RawJson.value?` — the value of a tree: every leaf must have a value, a repeated key keeps its
  first place and its last value, and brackets nest to a limited depth.  A value may be given as the
  text of a document embedded in a string.
* `Json.parse?` — the value of a text, with at most 127 brackets open at a time.
* `Json.raw` — a value as the tree of its text.
-/

set_option autoImplicit false
namespace ProxyFeed

/-- A JSON text as a tree.  A string or key without a value has an escape that names no character; a
number without a value lies beyond the binary64 range. -/
inductive RawJson where
  | null
  | bool (b : Bool)
  | num (value? : Option Json.Number)
  | str (text? : Option String)
  | arr (items : List RawJson)
  | obj (members : List (Option String × RawJson))
deriving Inhabited, Repr

namespace RawJson

/-! ## Building the tree -/

/-- A container that waits for one of its values. -/
inductive Frame where
  /-- An array, with the items before this one in reverse. -/
  | items (before : List RawJson)
  /-- An object, with the members before this one in reverse and the key of this one. -/
  | members (before : List (Option String × RawJson)) (key : Option String)
deriving Repr

/-- A tree in the making: what has to come next, and the open containers from the inside out. -/
inductive Assembly where
  | value (stack : List Frame)
  /-- Just after the bracket that begins an array. -/
  | firstItem (stack : List Frame)
  /-- Just after the bracket that begins an object. -/
  | firstKey (stack : List Frame)
  /-- After a comma in an object. -/
  | nextKey (before : List (Option String × RawJson)) (stack : List Frame)
  | colon (before : List (Option String × RawJson)) (key : Option String) (stack : List Frame)
  /-- A value has just ended. -/
  | ended (v : RawJson) (stack : List Frame)
deriving Repr

namespace Assembly

/-- A step where a value has to come. -/
def feedValue (frames : List Frame) : Json.Token → Option Assembly
  | .null => some (.ended .null frames)
  | .bool b => some (.ended (.bool b) frames)
  | .str text? => some (.ended (.str text?) frames)
  | .num value? => some (.ended (.num value?) frames)
  | .beginArray => some (.firstItem frames)
  | .beginObject => some (.firstKey frames)
  | _ => none

/-- One step. -/
def feed : Assembly → Json.Token → Option Assembly
  | .value frames, t => feedValue frames t
  | .firstItem frames, .endArray => some (.ended (.arr []) frames)
  | .firstItem frames, t => feedValue (.items [] :: frames) t
  | .firstKey frames, .endObject => some (.ended (.obj []) frames)
  | .firstKey frames, .str key => some (.colon [] key frames)
  | .nextKey before frames, .str key => some (.colon before key frames)
  | .colon before key frames, .colon => some (.value (.members before key :: frames))
  | .ended v (.items before :: frames), .comma => some (.value (.items (v :: before) :: frames))
  | .ended v (.items before :: frames), .endArray =>
    some (.ended (.arr (v :: before).reverse) frames)
  | .ended v (.members before key :: frames), .comma => some (.nextKey ((key, v) :: before) frames)
  | .ended v (.members before key :: frames), .endObject =>
    some (.ended (.obj ((key, v) :: before).reverse) frames)
  | _, _ => none

/-- The tree, if it is complete. -/
def finish : Assembly → Option RawJson
  | .ended v [] => some v
  | _ => none

end Assembly

/-- The tree of a list of tokens. -/
def ofTokens? (ts : List Json.Token) : Option RawJson :=
  (ts.foldlM Assembly.feed (.value [])).bind Assembly.finish

/-- The tree of a text; `none` if the text is not JSON. -/
def parse? (s : String) : Option RawJson := (Json.tokens? s.toList).bind ofTokens?

/-! ## The value of a tree -/

/-- An object whose first member has this key stands for a value that is given as the text of a
document of its own. -/
def embeddedKey : String := "$serde_json::private::RawValue"

/-- The text of an embedded document, if a list of members stands for one; it has to be a string and
the only member. -/
def embedded? : List (Option String × RawJson) → Option (Option String)
  | (some key, v) :: rest =>
    if key = embeddedKey then
      match v, rest with
      | .str text?, [] => some text?
      | _, _ => some none
    else none
  | _ => none

/-- The value of a tree in which at most `limit` brackets are open at a time, when `document?` reads
embedded documents. -/
def value? (document? : String → Option Json) : Nat → RawJson → Option Json
  | _, .null => some .null
  | _, .bool b => some (.bool b)
  | _, .num value? => value?.map .num
  | _, .str text? => text?.map .str
  | limit + 1, .arr items => (items.mapM (value? document? limit)).map .arr
  | limit + 1, .obj ms =>
    match embedded? ms with
    | some text? => text?.bind document?
    | none =>
      (ms.mapM fun (m : Option String × RawJson) => do
        return (← m.1, ← value? document? limit m.2)).map fun l => .obj (Members.ofList l)
  | 0, .arr _ => none
  | 0, .obj _ => none

/-- The greatest number of brackets open at a time in a text read as a value. -/
def nestingLimit : Nat := 127

/-- The value of a text in which documents are embedded less than `depth` deep. -/
def document? : Nat → String → Option Json
  | 0, _ => none
  | depth + 1, s => (parse? s).bind (value? (document? depth) nestingLimit)

end RawJson

namespace Json

/-- The value of a text.  An embedded text is shorter than the text around it, so the depth given
here is never reached. -/
def parse? (s : String) : Option Json := RawJson.document? (s.length + 1) s

mutual

/-- A value as the tree of its text. -/
def raw : Json → RawJson
  | .null => .null
  | .bool b => .bool b
  | .num n => .num (some n)
  | .str s => .str (some s)
  | .arr items => .arr (rawItems items)
  | .obj ms => .obj (rawMembers ms)

/-- The items of an array as trees. -/
def rawItems : List Json → List RawJson
  | [] => []
  | item :: rest => item.raw :: rawItems rest

/-- The members of an object as trees. -/
def rawMembers : List (String × Json) → List (Option String × RawJson)
  | [] => []
  | (k, v) :: rest => (some k, v.raw) :: rawMembers rest

end

end Json
end ProxyFeed
