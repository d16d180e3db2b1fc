import ProxyFeed.Json.Basic

/-!
# Searching a tree of settings

Security settings are read by looking for a key anywhere below a value.

## What is here

* `Json.members` — every object member anywhere in a value, in document pre-order: a member comes
  before the members inside its value.
* `Json.search` — the value of the first member with a key in that order, found without visiting
  what comes after it.
* `Json.hostHeader` — the `Host` entry of an object of headers.
-/

set_option autoImplicit false
namespace ProxyFeed
namespace Json

mutual

/-- Every object member anywhere in a value, in pre-order. -/
def members : Json → List (String × Json)
  | .arr items => membersOfItems items
  | .obj ms => membersOfMembers ms
  | _ => []

/-- The members inside the items of an array. -/
def membersOfItems : List Json → List (String × Json)
  | [] => []
  | item :: rest => item.members ++ membersOfItems rest

/-- The members of an object and those inside their values. -/
def membersOfMembers : List (String × Json) → List (String × Json)
  | [] => []
  | (k, v) :: rest => (k, v) :: (v.members ++ membersOfMembers rest)

end

mutual

/-- The value of the first member with a key, anywhere in a value. -/
def search (key : String) : Json → Option Json
  | .arr items => searchItems key items
  | .obj ms => searchMembers key ms
  | _ => none

/-- Searches the items of an array one after the other. -/
def searchItems (key : String) : List Json → Option Json
  | [] => none
  | item :: rest => (item.search key).orElse fun _ => searchItems key rest

/-- Searches the members of an object: each key before the inside of its value. -/
def searchMembers (key : String) : List (String × Json) → Option Json
  | [] => none
  | (k, v) :: rest =>
    if k = key then some v else (v.search key).orElse fun _ => searchMembers key rest

end

/-- The text of the first string member with a key, if the first member with that key is a
string. -/
def searchText (v : Json) (key : String) : Option String := (v.search key).bind str?

/-- Equality of texts up to the case of ASCII letters. -/
def sameIgnoringCase (a b : String) : Bool :=
  a.toList.map Char.toLower = b.toList.map Char.toLower

/-- The `Host` entry of an object of headers, whatever the case of its key: a string, or the first
item of an array if that is a string. -/
def hostHeader (headers : Option Json) : Option String := do
  let ms ← headers.bind obj?
  let (_, value) ← ms.find? fun m => sameIgnoringCase m.1 "host"
  match value with
  | .str host => some host
  | .arr hosts => hosts.head?.bind str?
  | _ => none

end Json
end ProxyFeed
