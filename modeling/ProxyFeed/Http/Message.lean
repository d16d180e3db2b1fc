/-!
# HTTP messages

## What is here

* `Headers` — named values in the order they were sent; names are compared without regard to case.
* `Request` — a method, a target and headers; `Request.isWellFormed` tells whether HTTP lets it be
  sent.
* `Response` — a status, headers and a body.
-/

set_option autoImplicit false
namespace ProxyFeed

/-- Header names and values in the order they were sent. -/
abbrev Headers := List (String × String)

namespace Headers

/-- A name in lower case. -/
def lower (name : String) : String := String.ofList (name.toList.map Char.toLower)

/-- The first value of a name; the name is given in lower case. -/
def first? (headers : Headers) (name : String) : Option String :=
  (headers.find? fun h => lower h.1 = name).map (·.2)

/-- A character that may stand in a name. -/
def isTokenChar (c : Char) : Bool :=
  ('a' ≤ c && c ≤ 'z') || ('A' ≤ c && c ≤ 'Z') || ('0' ≤ c && c ≤ '9') ||
    "!#$%&'*+-.^_|~".toList.contains c || c = '\x60'

/-- May the text be the name of a header, or a method? -/
def isToken (name : String) : Bool := name ≠ "" && name.toList.all isTokenChar

/-- May the text be the value of a header?  It has no control characters other than the tab. -/
def isValue (value : String) : Bool :=
  value.toList.all fun c => c = '\t' || (0x20 ≤ c.toNat && c.toNat ≠ 0x7F)

/-- Is the value plain text: tabs and visible ASCII characters?  Other values read as absent. -/
def isPlain (value : String) : Bool :=
  value.toList.all fun c => c = '\t' || (0x20 ≤ c.toNat && c.toNat ≤ 0x7E)

/-- The first value of a name, if it is plain text. -/
def text? (headers : Headers) (name : String) : Option String :=
  (headers.first? name).filter isPlain

end Headers

/-- A request. -/
structure Request where
  method : String := "GET"
  target : String
  headers : Headers := []
deriving DecidableEq, Repr

/-- An answer. -/
structure Response where
  status : Nat
  headers : Headers := []
  body : String := ""
deriving DecidableEq, Repr

end ProxyFeed
