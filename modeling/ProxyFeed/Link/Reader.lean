import ProxyFeed.Link.Basic

/-!
# Reading links

A link says what it was made from.  This file takes the text of one apart again, with no knowledge
of how it was put together beyond the delimiters and the encoding of each part.

## What is here

* `Cut.first?` and `Cut.last?` — a text cut at the first or the last occurrence of a character.
* `Uri.pieces?` — a link in URI form cut into its parts, as they stand.
* `Uri.read?` — the parts decoded.
* `Uri.params?` — the parameters alone, found from the end of a link.
* `Uri.place?` — host and port alone, whatever the host.
* `Vmess.read?` — the document of a vmess link.
* `Link.lookup?` — what any link says under a key.
-/

set_option autoImplicit false
namespace ProxyFeed

namespace Cut

/-- What stands before and after the first occurrence of a character. -/
def first? (sep : Char) (cs : List Char) : Option (List Char × List Char) :=
  match cs.dropWhile (· ≠ sep) with
  | [] => none
  | _ :: after => some (cs.takeWhile (· ≠ sep), after)

/-- What stands before and after the last occurrence of a character. -/
def last? (sep : Char) (cs : List Char) : Option (List Char × List Char) :=
  (first? sep cs.reverse).map fun p => (p.2.reverse, p.1.reverse)

end Cut

/-- The text of UTF-8 bytes. -/
def textOfUtf8? (bs : List UInt8) : Option String := (Utf8.decode? bs).map String.ofList

namespace Uri

/-- The parts of a link as they stand in its text. -/
structure Pieces where
  scheme : List Char
  userinfo : List Char
  host : List Char
  port : List Char
  query : List Char
  fragment : List Char
deriving DecidableEq, Repr

/-- Cuts a link at its first `@`, the first `?` after that, the `#` that follows, and the last `:`
before the query. -/
def pieces? (cs : List Char) : Option Pieces := do
  let (front, rest) ← Cut.first? '@' cs
  let (authority, rest) ← Cut.first? '?' rest
  let (query, fragment) ← Cut.first? '#' rest
  let (host, port) ← Cut.last? ':' authority
  let (scheme, '/' :: '/' :: userinfo) ← Cut.first? ':' front | none
  return ⟨scheme, userinfo, host, port, query, fragment⟩

/-- What a link says.  Host and port are as they stand, brackets included. -/
structure Reading where
  scheme : String
  credential : String
  host : String
  port : String
  params : List (String × String)
  remark : String
deriving DecidableEq, Repr

/-- A parameter from its bytes. -/
def param? (p : List UInt8 × List UInt8) : Option (String × String) := do
  return (← textOfUtf8? p.1, ← textOfUtf8? p.2)

/-- Reads a link: credential and remark are percent-encoded, the query is form-encoded. -/
def read? (cs : List Char) : Option Reading := do
  let p ← pieces? cs
  return {
    scheme := String.ofList p.scheme
    credential := ← textOfUtf8? (Percent.decode p.userinfo)
    host := String.ofList p.host
    port := String.ofList p.port
    params := ← (Form.decode p.query).mapM param?
    remark := ← textOfUtf8? (Percent.decode p.fragment) }

/-- The parameters of a link: its query stands between its last `?` and its last `#`.  Neither
occurs in what follows, so the address in front may hold any character. -/
def params? (cs : List Char) : Option (List (String × String)) := do
  let (front, _) ← Cut.last? '#' cs
  let (_, query) ← Cut.last? '?' front
  (Form.decode query).mapM param?

/-- The host and the port of a link, as they stand: they fill the space between its first `@` and
the last `?` before its last `#`, and the last `:` divides them.  So the host may hold any
character. -/
def place? (cs : List Char) : Option (String × String) := do
  let (front, _) ← Cut.last? '#' cs
  let (front, _) ← Cut.last? '?' front
  let (_, authority) ← Cut.first? '@' front
  let (host, port) ← Cut.last? ':' authority
  return (String.ofList host, String.ofList port)

end Uri

namespace Vmess

/-- What a vmess link begins with. -/
def scheme : List Char := "vmess://".toList

/-- Reads a vmess link: the JSON document whose text is in base64 behind the scheme. -/
def read? (cs : List Char) : Option Json := do
  if scheme.isPrefixOf cs then
    Json.parse? (← textOfUtf8? (← Base64.decode? (cs.drop scheme.length)))
  else none

end Vmess

/-- What a link says under a key: a parameter of its query, or a member of its document. -/
def Link.lookup? (protocol : Protocol) (line key : String) : Option Json :=
  match protocol with
  | .vmess => (Vmess.read? line.toList).bind (·.get? key)
  | _ => do
    let pairs ← Uri.params? line.toList
    let (_, text) ← pairs.find? (·.1 = key)
    return .str text

end ProxyFeed
