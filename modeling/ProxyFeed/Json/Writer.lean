import ProxyFeed.Json.Literal

/-!
# Writing JSON

## What is here

* `Json.compact` — the text without any space.
* `Json.pretty` — the text with one member or item to a line, indented by two spaces a level, and
  empty containers closed at once.
-/

set_option autoImplicit false
namespace ProxyFeed
namespace Json

mutual

/-- A value as text without spaces. -/
def compactChars : Json → List Char
  | .null => "null".toList
  | .bool true => "true".toList
  | .bool false => "false".toList
  | .num n => n.text
  | .str s => quoted s
  | .arr items => '[' :: (compactItems items ++ [']'])
  | .obj ms => '{' :: (compactMembers ms ++ ['}'])

/-- The items of an array, separated by commas. -/
def compactItems : List Json → List Char
  | [] => []
  | item :: rest => item.compactChars ++ compactMoreItems rest

/-- Further items, a comma before each. -/
def compactMoreItems : List Json → List Char
  | [] => []
  | item :: rest => ',' :: (item.compactChars ++ compactMoreItems rest)

/-- The members of an object, separated by commas. -/
def compactMembers : List (String × Json) → List Char
  | [] => []
  | (k, v) :: rest => quoted k ++ ':' :: (v.compactChars ++ compactMoreMembers rest)

/-- Further members, a comma before each. -/
def compactMoreMembers : List (String × Json) → List Char
  | [] => []
  | (k, v) :: rest => ',' :: (quoted k ++ ':' :: (v.compactChars ++ compactMoreMembers rest))

end

/-- A line break and the indentation of a level. -/
def newline (level : Nat) : List Char := '\n' :: List.replicate (2 * level) ' '

mutual

/-- A value as indented text, its first line already begun at the level. -/
def prettyChars (level : Nat) : Json → List Char
  | .null => "null".toList
  | .bool true => "true".toList
  | .bool false => "false".toList
  | .num n => n.text
  | .str s => quoted s
  | .arr [] => ['[', ']']
  | .arr (item :: rest) =>
    '[' :: (newline (level + 1) ++ item.prettyChars (level + 1) ++
      (prettyMoreItems (level + 1) rest ++ (newline level ++ [']'])))
  | .obj [] => ['{', '}']
  | .obj ((k, v) :: rest) =>
    '{' :: (newline (level + 1) ++ quoted k ++ ':' :: ' ' :: v.prettyChars (level + 1) ++
      (prettyMoreMembers (level + 1) rest ++ (newline level ++ ['}'])))

/-- Further items, a comma before each. -/
def prettyMoreItems (level : Nat) : List Json → List Char
  | [] => []
  | item :: rest =>
    ',' :: (newline level ++ item.prettyChars level ++ prettyMoreItems level rest)

/-- Further members, a comma before each. -/
def prettyMoreMembers (level : Nat) : List (String × Json) → List Char
  | [] => []
  | (k, v) :: rest =>
    ',' :: (newline level ++ quoted k ++ ':' :: ' ' :: v.prettyChars level ++
      prettyMoreMembers level rest)

end

/-- A value as text without spaces. -/
def compact (v : Json) : String := String.ofList v.compactChars

/-- A value as indented text. -/
def pretty (v : Json) : String := String.ofList (v.prettyChars 0)

end Json
end ProxyFeed
