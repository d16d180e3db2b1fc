import ProxyFeed.Json.Token

/-!
# Relaxed JSON

A database takes JSON columns in a relaxed notation: comments, keys without quotes, single quotes,
further escapes, hexadecimal and infinite numbers, and a comma after the last item.  This file holds
the tree of such a text; `RelaxedJson.Reader` reads one.

## What is here

* `LooseText` — a text that may hold surrogates on their own, since escapes can name them.
* `LooseText.unescaped` — the characters that a string as written stands for.
* `LooseText.standard` — a string as written, in the escapes of standard JSON.
* `RelaxedJson` — the tree.  Strings and keys are kept as written between their quotes.
* `RelaxedJson.standard` — the tree of a value after it was written in standard JSON.
* `RelaxedJson.compact` — the standard JSON text of a tree, without spaces.
-/

set_option autoImplicit false
namespace ProxyFeed

/-- A text that may hold surrogates on their own. -/
abbrev LooseText := List Json.Piece

namespace LooseText

/-- A text of characters. -/
def ofChars (cs : List Char) : LooseText := cs.map .char

/-- Is the text the given characters? -/
def isChars : LooseText → List Char → Bool
  | [], [] => true
  | .char c :: rest, d :: ds => c = d && isChars rest ds
  | _, _ => false

/-- The value of a hexadecimal digit. -/
def hexValue : Json.Piece → Nat
  | .char c => (Json.Scanner.hexValue? c).getD 0
  | .unit _ => 0

/-- The number of four hexadecimal digits. -/
def unitValue (a b c d : Json.Piece) : Nat :=
  ((hexValue a * 16 + hexValue b) * 16 + hexValue c) * 16 + hexValue d

/-- What a UTF-16 unit stands for on its own. -/
def ofUnit (u : Nat) : Json.Piece :=
  if Json.isLead u || Json.isTrail u then .unit u else .char (Char.ofNat u)

/-- The character of a surrogate pair. -/
def ofPair (u v : Nat) : Json.Piece :=
  .char (Char.ofNat (0x10000 + (u - 0xD800) * 0x400 + (v - 0xDC00)))

/-- The first unit of a pair whose second unit did not come. -/
def pending (lead? : Option Nat) : LooseText := (lead?.map Json.Piece.unit).toList

/-- Does the character end a line? -/
def isLineEnd (c : Char) : Bool := c = '\n' || c = '\r' || c = '\u2028' || c = '\u2029'

/-- The character that an escape of one letter stands for. -/
def escapeChar (c : Char) : Char :=
  if c = 'b' then '\x08'
  else if c = 'f' then '\x0c'
  else if c = 'n' then '\n'
  else if c = 'r' then '\r'
  else if c = 't' then '\t'
  else if c = 'v' then '\x0b'
  else if c = '0' then '\x00'
  else c

/-- The characters that a string as written stands for, after an escape for the first unit of a
surrogate pair if there was one.  An escaped line end stands for nothing, but at the end of a string
for a null character. -/
def unescapedAfter : Option Nat → LooseText → LooseText
  | lead?, .char '\\' :: .char 'u' :: a :: b :: c :: d :: rest =>
    let u := unitValue a b c d
    if lead?.isSome && Json.isTrail u then ofPair (lead?.getD 0) u :: unescapedAfter none rest
    else
      pending lead? ++
        if Json.isLead u then unescapedAfter (some u) rest
        else ofUnit u :: unescapedAfter none rest
  | lead?, .char '\\' :: .char 'x' :: a :: b :: rest =>
    pending lead? ++
      .char (Char.ofNat (hexValue a * 16 + hexValue b)) :: unescapedAfter none rest
  | lead?, .char '\\' :: .char '\r' :: .char '\n' :: rest =>
    pending lead? ++ (if rest = [] then [.char '\x00'] else unescapedAfter none rest)
  | lead?, .char '\\' :: .char c :: rest =>
    pending lead? ++
      if isLineEnd c then if rest = [] then [.char '\x00'] else unescapedAfter none rest
      else .char (escapeChar c) :: unescapedAfter none rest
  | lead?, c :: rest => pending lead? ++ c :: unescapedAfter none rest
  | lead?, [] => pending lead?

/-- The characters that a string as written stands for. -/
def unescaped (written : LooseText) : LooseText := unescapedAfter none written

/-- A string as written, in the escapes of standard JSON.  Those are kept as they are; other escapes
and control characters are replaced, a vertical tab by a tab, and escaped line ends dropped. -/
def standard : LooseText → LooseText
  | .char '\\' :: .char '\r' :: .char '\n' :: rest => standard rest
  | .char '\\' :: .char c :: rest =>
    if isLineEnd c then standard rest
    else if c = '\'' then .char c :: standard rest
    else if c = 'v' then ofChars "\\u0009".toList ++ standard rest
    else if c = '0' then ofChars "\\u0000".toList ++ standard rest
    else if c = 'x' then ofChars "\\u00".toList ++ standard rest
    else .char '\\' :: .char c :: standard rest
  | .char c :: rest => ofChars (Json.escaped c) ++ standard rest
  | c :: rest => c :: standard rest
  | [] => []

end LooseText

/-- A tree of relaxed JSON. -/
inductive RelaxedJson where
  | null
  | bool (b : Bool)
  /-- A number in standard notation; a hexadecimal one that does not fit 64 bits is also marked. -/
  | num (text : List Char) (exceeds : Bool)
  | str (written : LooseText)
  | arr (items : List RelaxedJson)
  | obj (members : List (LooseText × RelaxedJson))
deriving Inhabited, Repr

namespace RelaxedJson

mutual

/-- The tree of a value after it was written in standard JSON. -/
def standard : RelaxedJson → RelaxedJson
  | .null => .null
  | .bool b => .bool b
  | .num text _ => .num text false
  | .str written => .str written.standard
  | .arr items => .arr (standardItems items)
  | .obj ms => .obj (standardMembers ms)

/-- The items of an array after they were written in standard JSON. -/
def standardItems : List RelaxedJson → List RelaxedJson
  | [] => []
  | v :: rest => v.standard :: standardItems rest

/-- The members of an object after they were written in standard JSON. -/
def standardMembers : List (LooseText × RelaxedJson) → List (LooseText × RelaxedJson)
  | [] => []
  | (k, v) :: rest => (k.standard, v.standard) :: standardMembers rest

end

/-- A string as written, between quotes. -/
def quoted (written : LooseText) : LooseText := .char '"' :: (written.standard ++ [.char '"'])

mutual

/-- The standard JSON text of a tree, without spaces. -/
def compact : RelaxedJson → LooseText
  | .null => .ofChars "null".toList
  | .bool true => .ofChars "true".toList
  | .bool false => .ofChars "false".toList
  | .num text _ => .ofChars text
  | .str written => quoted written
  | .arr items => .char '[' :: (compactItems items ++ [.char ']'])
  | .obj ms => .char '\x7b' :: (compactMembers ms ++ [.char '\x7d'])

/-- The items of an array, separated by commas. -/
def compactItems : List RelaxedJson → LooseText
  | [] => []
  | [v] => v.compact
  | v :: rest => v.compact ++ .char ',' :: compactItems rest

/-- The members of an object, separated by commas. -/
def compactMembers : List (LooseText × RelaxedJson) → LooseText
  | [] => []
  | [(k, v)] => quoted k ++ .char ':' :: v.compact
  | (k, v) :: rest => quoted k ++ .char ':' :: (v.compact ++ .char ',' :: compactMembers rest)

end

/-- Is the key the given text?  A null character ends the key. -/
def isKey (written : LooseText) (key : String) : Bool :=
  LooseText.isChars (written.unescaped.takeWhile (· ≠ .char '\x00')) key.toList

/-- The first member with a key; a value that is not an object has none. -/
def member? (key : String) : RelaxedJson → Option RelaxedJson
  | .obj ms => (ms.find? fun m => isKey m.1 key).map (·.2)
  | _ => none

/-- Is the value this text?  A string is its characters, an array or an object its text in standard
JSON; nothing else is a text. -/
def isText (text : String) : RelaxedJson → Bool
  | .str written => written.unescaped.isChars text.toList
  | .arr items => (compact (.arr items)).isChars text.toList
  | .obj ms => (compact (.obj ms)).isChars text.toList
  | _ => false

end RelaxedJson
end ProxyFeed
