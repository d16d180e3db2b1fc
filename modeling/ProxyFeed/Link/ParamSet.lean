import ProxyFeed.Json.Writer
import ProxyFeed.Text.Form

/-!
# Parameter sets

The keyed values of a link, written either as a query or as a JSON document.

## What is here

* `ParamSet` — entries in the order of their first setting; setting a key again replaces its value
  in place.
* `ParamSet.query` and `ParamSet.document` — both writers sort the keys by their UTF-8 bytes, so the
  history of a set does not show in its texts.
-/

set_option autoImplicit false
namespace ProxyFeed

/-- The value of a parameter. -/
inductive ParamValue where
  | text (s : String)
  | int (n : Int64)
deriving DecidableEq, Repr

namespace ParamValue

/-- A value in a query. -/
def queryText : ParamValue → String
  | .text s => s
  | .int n => toString n.toInt

/-- A value in a JSON document. -/
def toJson : ParamValue → Json
  | .text s => .str s
  | .int n => .ofInt n.toInt

end ParamValue

/-- The parameters of a link. -/
structure ParamSet where
  entries : List (String × ParamValue) := []
deriving DecidableEq, Repr, Inhabited

namespace ParamSet

/-- The set without parameters. -/
def empty : ParamSet := ⟨[]⟩

/-- The value of a key. -/
def get? (s : ParamSet) (key : String) : Option ParamValue :=
  (s.entries.find? (·.1 = key)).map (·.2)

/-- Gives a key a value. -/
def set (s : ParamSet) (key : String) (v : ParamValue) : ParamSet :=
  if s.entries.any (·.1 = key) then
    ⟨s.entries.map fun e => if e.1 = key then (key, v) else e⟩
  else ⟨s.entries ++ [(key, v)]⟩

/-- Gives a key a text. -/
def setText (s : ParamSet) (key v : String) : ParamSet := s.set key (.text v)

/-- Gives a key a text if there is one. -/
def setText? (s : ParamSet) (key : String) : Option String → ParamSet
  | some v => s.setText key v
  | none => s

/-- Removes the keys of a list. -/
def removeAll (s : ParamSet) (keys : List String) : ParamSet :=
  ⟨s.entries.filter fun e => !keys.contains e.1⟩

/-- The order of keys: by their UTF-8 bytes. -/
def keyLe (a b : String) : Bool := decide (utf8 a ≤ utf8 b)

/-- Puts an entry in front of the first one whose key is not less. -/
def insertEntry (e : String × ParamValue) : List (String × ParamValue) → List (String × ParamValue)
  | [] => [e]
  | x :: xs => if keyLe e.1 x.1 then e :: x :: xs else x :: insertEntry e xs

/-- The entries by increasing key. -/
def sorted (s : ParamSet) : List (String × ParamValue) := s.entries.foldr insertEntry []

/-- The set as a form-encoded query. -/
def query (s : ParamSet) : String :=
  String.ofList (Form.encode (s.sorted.map fun e => (e.1, e.2.queryText)))

/-- The set as a JSON object. -/
def toJson (s : ParamSet) : Json := .obj (s.sorted.map fun e => (e.1, e.2.toJson))

/-- The set as an indented JSON document. -/
def document (s : ParamSet) : String := s.toJson.pretty

/-- The keys that describe a TLS identity. -/
def tlsIdentityKeys : List String := ["alpn", "sni", "fp", "allowInsecure"]

/-- Removes the keys that describe a TLS identity. -/
def removeTlsIdentity (s : ParamSet) : ParamSet := s.removeAll tlsIdentityKeys

end ParamSet
end ProxyFeed
