import ProxyFeed.Json.Literal

/-!
# Tokens of a JSON text

A JSON text is first cut into tokens.  The scanner is a machine that takes one character at a time,
so scanning is a fold over the text and needs no measure of progress.

## What is here

* `Token` — brackets, separators, literals, strings and numbers.  A string whose escapes name no
  characters and a number beyond the binary64 range are still tokens, without a value: such leaves
  are errors only for a reader that wants them.
* `Scanner` — the machine; `Scanner.feed` is one step of it.
* `tokens?` — the tokens of a whole text, `none` where no token can continue.
-/

set_option autoImplicit false
namespace ProxyFeed
namespace Json

/-- A token. -/
inductive Token where
  | beginArray
  | endArray
  | beginObject
  | endObject
  | comma
  | colon
  | null
  | bool (b : Bool)
  | str (text? : Option String)
  | num (value? : Option Number)
deriving DecidableEq, Repr

/-- What the scanner is in the middle of. -/
inductive Mode where
  | between
  /-- A string, its pieces so far in reverse. -/
  | string (pieces : List Piece)
  /-- Just after a backslash. -/
  | escape (pieces : List Piece)
  /-- An escape by code unit: the digits still to come and the value so far. -/
  | unit (pieces : List Piece) (missing : Nat) (value : Nat)
  /-- A number, its characters so far in reverse. -/
  | number (chars : List Char)
  /-- A literal, its letters so far in reverse. -/
  | word (letters : List Char)
deriving DecidableEq, Repr

/-- The scanner: its mode, and the finished tokens in reverse. -/
structure Scanner where
  mode : Mode
  done : List Token
deriving DecidableEq, Repr

namespace Scanner

/-- The scanner before a text. -/
def start : Scanner := ⟨.between, []⟩

/-- The white space allowed between tokens. -/
def isSpace (c : Char) : Bool := c = ' ' || c = '\t' || c = '\n' || c = '\r'

/-- The characters a number is made of. -/
def isNumberChar (c : Char) : Bool :=
  NumberText.isDigit c || c = '-' || c = '+' || c = '.' || c = 'e' || c = 'E'

/-- The letters a literal is made of. -/
def isLetter (c : Char) : Bool := 'a' ≤ c && c ≤ 'z'

/-- The token of one character, if it is one by itself. -/
def punctuation? (c : Char) : Option Token :=
  if c = '[' then some .beginArray
  else if c = ']' then some .endArray
  else if c = '{' then some .beginObject
  else if c = '}' then some .endObject
  else if c = ',' then some .comma
  else if c = ':' then some .colon
  else none

/-- A step between tokens. -/
def feedBetween (done : List Token) (c : Char) : Option Scanner :=
  if isSpace c then some ⟨.between, done⟩
  else if c = '"' then some ⟨.string [], done⟩
  else if c = '-' ∨ NumberText.isDigit c then some ⟨.number [c], done⟩
  else if isLetter c then some ⟨.word [c], done⟩
  else (punctuation? c).map fun t => ⟨.between, t :: done⟩

/-- The token of a finished number. -/
def numberToken? (chars : List Char) : Option Token :=
  (NumberText.parse? chars.reverse).map fun t => .num t.value?

/-- The token of a finished literal. -/
def wordToken? (letters : List Char) : Option Token :=
  if letters.reverse = "null".toList then some .null
  else if letters.reverse = "true".toList then some (.bool true)
  else if letters.reverse = "false".toList then some (.bool false)
  else none

/-- The character an escape of one letter stands for. -/
def escapeChar? (c : Char) : Option Char :=
  if c = '"' ∨ c = '\\' ∨ c = '/' then some c
  else if c = 'b' then some '\x08'
  else if c = 'f' then some '\x0c'
  else if c = 'n' then some '\n'
  else if c = 'r' then some '\r'
  else if c = 't' then some '\t'
  else none

/-- The value of a hexadecimal digit of either case. -/
def hexValue? (c : Char) : Option Nat :=
  if '0' ≤ c ∧ c ≤ '9' then some (c.toNat - '0'.toNat)
  else if 'a' ≤ c ∧ c ≤ 'f' then some (c.toNat - 'a'.toNat + 10)
  else if 'A' ≤ c ∧ c ≤ 'F' then some (c.toNat - 'A'.toNat + 10)
  else none

/-- The token of a finished string. -/
def stringToken (pieces : List Piece) : Token :=
  .str ((joinPieces pieces.reverse).map String.ofList)

/-- One step. -/
def feed (s : Scanner) (c : Char) : Option Scanner :=
  match s.mode with
  | .between => feedBetween s.done c
  | .string pieces =>
    if c = '"' then some ⟨.between, stringToken pieces :: s.done⟩
    else if c = '\\' then some ⟨.escape pieces, s.done⟩
    else if c.toNat < 0x20 then none
    else some ⟨.string (.char c :: pieces), s.done⟩
  | .escape pieces =>
    if c = 'u' then some ⟨.unit pieces 4 0, s.done⟩
    else (escapeChar? c).map fun d => ⟨.string (.char d :: pieces), s.done⟩
  | .unit pieces missing value =>
    (hexValue? c).map fun d =>
      if missing ≤ 1 then ⟨.string (.unit (value * 16 + d) :: pieces), s.done⟩
      else ⟨.unit pieces (missing - 1) (value * 16 + d), s.done⟩
  | .number chars =>
    if isNumberChar c then some ⟨.number (c :: chars), s.done⟩
    else (numberToken? chars).bind fun t => feedBetween (t :: s.done) c
  | .word letters =>
    if isLetter c then some ⟨.word (c :: letters), s.done⟩
    else (wordToken? letters).bind fun t => feedBetween (t :: s.done) c

/-- The tokens at the end of a text, in order. -/
def finish (s : Scanner) : Option (List Token) :=
  match s.mode with
  | .between => some s.done.reverse
  | .number chars => (numberToken? chars).map fun t => (t :: s.done).reverse
  | .word letters => (wordToken? letters).map fun t => (t :: s.done).reverse
  | _ => none

end Scanner

/-- The tokens of a text. -/
def tokens? (cs : List Char) : Option (List Token) :=
  (cs.foldlM Scanner.feed Scanner.start).bind Scanner.finish

end Json
end ProxyFeed
