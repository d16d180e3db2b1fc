import ProxyFeed.RelaxedJson.Reader

/-!
# JSON columns of a database

A database looks into a JSON column with functions of its own.  They read relaxed JSON and work on
the text as written: of repeated members the first one counts, and an unreadable leaf is an error
only if it is looked at.

## What is here

* `JsonColumn.document` — the tree of a column; a text that is not JSON is an error of the query.
* `JsonColumn.argument` — a value passed on to a further function: objects and arrays are written in
  standard JSON, a string is read as JSON once more, and a number or a truth value is a document of
  its own.
* `JsonColumn.elements` — what a document has one row for each of.
* `JsonColumn.fieldIs` — does an element have a member with a text?
* `JsonColumn.anyOf` and `JsonColumn.firstOf` — is there such an element, looking at all of them, or
  no further than the first.
-/

set_option autoImplicit false
namespace ProxyFeed

/-- A JSON function met a text that is not JSON. -/
inductive MalformedJson where
  | malformed
deriving DecidableEq, Repr

namespace JsonColumn

/-- The tree of a document. -/
def document (text : LooseText) : Except MalformedJson RelaxedJson :=
  match RelaxedJson.parse? text with
  | some v => .ok v
  | none => .error .malformed

/-- The tree of a column. -/
def column (text : String) : Except MalformedJson RelaxedJson := document (.ofChars text.toList)

/-- A value passed on to a further function; null is no document at all, and a number has to be
within the range of numbers. -/
def argument : RelaxedJson → Except MalformedJson (Option RelaxedJson)
  | .null => .ok none
  | .bool b => .ok (some (.num [if b then '1' else '0'] false))
  | .num text exceeds => if exceeds then .error .malformed else .ok (some (.num text false))
  | .str written => (document written.unescaped).map some
  | v => .ok (some v.standard)

/-- The elements of a document: the items of an array, the values of an object, or a scalar
itself. -/
def elements : RelaxedJson → List RelaxedJson
  | .arr items => items
  | .obj ms => ms.map (·.2)
  | v => [v]

/-- Is the member of an element this text? -/
def fieldIs (key text : String) (element : RelaxedJson) : Except MalformedJson Bool := do
  match (← argument element).bind (RelaxedJson.member? key) with
  | some (.num _ true) => throw .malformed
  | some v => return v.isText text
  | none => return false

/-- Is the member of some element this text?  Every element is looked at. -/
def anyOf (key text : String) (es : List RelaxedJson) : Except MalformedJson Bool := do
  return (← es.mapM (fieldIs key text)).any id

/-- Is the member of some element this text?  Nothing is looked at after the first such element. -/
def firstOf (key text : String) : List RelaxedJson → Except MalformedJson Bool
  | [] => .ok false
  | e :: es => do
    if ← fieldIs key text e then return true else firstOf key text es

/-- The elements of the clients in a settings column. -/
def clients (settings : String) : Except MalformedJson (List RelaxedJson) := do
  match RelaxedJson.member? "clients" (← column settings) with
  | none => return []
  | some v => return ((← argument v).map elements).getD []

/-- The elements of the fallbacks in a settings column, which have to be an array. -/
def fallbacks (settings : String) : Except MalformedJson (List RelaxedJson) := do
  match RelaxedJson.member? "fallbacks" (← column settings) with
  | some (.arr items) => return items
  | _ => return []

end JsonColumn
end ProxyFeed
