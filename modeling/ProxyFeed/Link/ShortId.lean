import ProxyFeed.Json.Basic
import ProxyFeed.Text.Blank
import ProxyFeed.Text.Utf8

/-!
# Reality short ids

A short id is 8 to 16 hexadecimal digits, an even number of them.

## What is here

* `ShortId.ofText?` — the short id a text names: white space around it does not count, and letters
  become lower case.
* `ShortId.normalize` — the short ids among a list of values, each once, by first appearance.
* `ShortId.first?` — the first of them.
-/

set_option autoImplicit false
namespace ProxyFeed
namespace ShortId

/-- A hexadecimal digit of either case. -/
def isHexDigit (c : Char) : Bool :=
  ('0' ≤ c && c ≤ '9') || ('a' ≤ c && c ≤ 'f') || ('A' ≤ c && c ≤ 'F')

/-- Is the text a short id, up to the case of its letters?  Its length is counted in bytes, which
for hexadecimal digits are characters. -/
def isValid (cs : List Char) : Bool :=
  let n := (Utf8.encode cs).length
  8 ≤ n && n ≤ 16 && n % 2 = 0 && cs.all isHexDigit

/-- The short id a text names. -/
def ofText? (s : String) : Option String :=
  let cs := Blank.trim s.toList
  if isValid cs then some (String.ofList (cs.map Char.toLower)) else none

/-- The short id a value names, if it is a string. -/
def ofJson? (v : Json) : Option String := v.str?.bind ofText?

/-- The short ids among a list of values, each once, by first appearance. -/
def normalize (values : List Json) : List String := (values.filterMap ofJson?).eraseDups

/-- The first short id. -/
def first? (values : List Json) : Option String := (normalize values).head?

end ShortId
end ProxyFeed
