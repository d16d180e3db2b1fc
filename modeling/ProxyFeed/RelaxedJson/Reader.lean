import ProxyFeed.RelaxedJson.Basic

/-!
# Reading relaxed JSON

A reader takes a text and gives what it read together with the rest; `none` is an error.

## What is here

* `LooseText.skipBlank` — drops white space and comments.
* `LooseText.string?`, `LooseText.number?`, `LooseText.word` — the leaves.
* `RelaxedJson.value?` — a value, in which a limited number of brackets is open at a time.
* `RelaxedJson.parse?` — the tree of a whole text, which a null character ends.

A leaf is read as far as it goes.  What may not follow it then stands where a comma or a bracket has
to come, so it is an error there.
-/

set_option autoImplicit false
namespace ProxyFeed
namespace LooseText

/-! ## White space and comments -/

/-- A blank of standard JSON, or one of the further blanks. -/
def isBlank (c : Char) : Bool :=
  let n := c.toNat
  (0x09 ≤ n && n ≤ 0x0D) || n = 0x20 || n = 0xA0 || n = 0x1680 || (0x2000 ≤ n && n ≤ 0x200A) ||
    n = 0x2028 || n = 0x2029 || n = 0x202F || n = 0x205F || n = 0x3000 || n = 0xFEFF

/-- The rest after the end of a comment between asterisks. -/
def afterBlock? : LooseText → Option LooseText
  | .char '*' :: .char '/' :: rest => some rest
  | _ :: rest => afterBlock? rest
  | [] => none

/-- The rest after the end of a line. -/
def afterLine : LooseText → LooseText
  | .char c :: rest => if isLineEnd c then rest else afterLine rest
  | .unit _ :: rest => afterLine rest
  | [] => []

/-- The rest after one blank or comment. -/
def afterBlank? : LooseText → Option LooseText
  | .char '/' :: .char '*' :: rest => afterBlock? rest
  | .char '/' :: .char '/' :: rest => some (afterLine rest)
  | .char c :: rest => if isBlank c then some rest else none
  | _ => none

/-- Drops up to so many blanks and comments. -/
def skipBlanks : Nat → LooseText → LooseText
  | 0, cs => cs
  | count + 1, cs =>
    match afterBlank? cs with
    | some rest => skipBlanks count rest
    | none => cs

/-- Drops white space and comments. -/
def skipBlank (cs : LooseText) : LooseText :=
  match afterBlank? cs with
  | some rest => skipBlanks rest.length rest
  | none => cs

/-! ## Leaves -/

/-- The longest run of characters of a kind, and the rest. -/
def span (p : Char → Bool) : LooseText → List Char × LooseText
  | .char c :: rest =>
    if p c then
      let (cs, rest) := span p rest
      (c :: cs, rest)
    else ([], .char c :: rest)
  | cs => ([], cs)

/-- A hexadecimal digit. -/
def isHex (c : Char) : Bool := (Json.Scanner.hexValue? c).isSome

/-- Does the text begin with so many hexadecimal digits? -/
def startsHex (count : Nat) (cs : LooseText) : Bool := (span isHex (cs.take count)).1.length = count

/-- May the text after a backslash be an escape? -/
def startsEscape : LooseText → Bool
  | .char 'u' :: rest => startsHex 4 rest
  | .char 'x' :: rest => startsHex 2 rest
  | .char c :: _ => isLineEnd c || "\"\\/bfnrt'0v".toList.contains c
  | _ => false

/-- Reads a string after its opening quote: as written, and the rest after its closing quote. -/
def string? (quote : Char) : LooseText → Option (LooseText × LooseText)
  | .char '\\' :: c :: rest =>
    if startsEscape (c :: rest) then
      (string? quote rest).map fun r => (.char '\\' :: c :: r.1, r.2)
    else none
  | c :: rest =>
    if c = .char quote then some ([], rest)
    else (string? quote rest).map fun r => (c :: r.1, r.2)
  | [] => none

/-- A letter or digit of ASCII. -/
def isAlphanumeric (c : Char) : Bool :=
  ('a' ≤ c && c ≤ 'z') || ('A' ≤ c && c ≤ 'Z') || NumberText.isDigit c

/-- The run of letters and digits that starts a text, and the rest. -/
def word (cs : LooseText) : List Char × LooseText := span isAlphanumeric cs

/-- A word in lower case. -/
def lower (cs : List Char) : String := String.ofList (cs.map Char.toLower)

/-- Infinity in standard notation: a number beyond the binary64 range. -/
def infinity : List Char := "9e999".toList

/-- The value that a word stands for: a literal, an infinity, or one of the names for what is not a
number, which counts as null.  The literals have to be in lower case. -/
def literal? (letters : List Char) : Option RelaxedJson :=
  if letters = "null".toList then some .null
  else if letters = "true".toList then some (.bool true)
  else if letters = "false".toList then some (.bool false)
  else if lower letters = "inf" ∨ lower letters = "infinity" then some (.num infinity false)
  else if ["nan", "qnan", "snan"].contains (lower letters) then some .null
  else none

/-- The digits of a hexadecimal number in decimal, unless they do not fit 64 bits. -/
def hexText (digits : List Char) : List Char × Bool :=
  let n := digits.foldl (fun n d => n * 16 + (Json.Scanner.hexValue? d).getD 0) 0
  if n < 0x10000000000000000 then (Nat.toDigits 10 n, false) else ("9.0e999".toList, true)

/-- Reads an optional exponent, as written. -/
def exponent? (cs : LooseText) : Option (List Char × LooseText) :=
  match cs with
  | .char e :: rest =>
    if e = 'e' ∨ e = 'E' then
      let (sign, rest) :=
        match rest with
        | .char '+' :: more => (['+'], more)
        | .char '-' :: more => (['-'], more)
        | _ => ([], rest)
      let (digits, rest) := span NumberText.isDigit rest
      if digits = [] then none else some (e :: sign ++ digits, rest)
    else some ([], cs)
  | _ => some ([], cs)

/-- Reads a decimal number without its sign.  A point needs a digit on one side; the other side is
filled with a zero. -/
def decimal? (cs : LooseText) : Option (List Char × LooseText) := do
  let (whole, rest) := span NumberText.isDigit cs
  let (fraction, rest) :=
    match rest with
    | .char '.' :: more =>
      let (fraction, more) := span NumberText.isDigit more
      (some fraction, more)
    | _ => (none, rest)
  let (exponent, rest) ← exponent? rest
  let orZero (digits : List Char) : List Char := if digits = [] then ['0'] else digits
  if whole.head? = some '0' ∧ whole.length ≠ 1 then none
  else if whole = [] ∧ fraction.getD [] = [] then none
  else
    let point := (fraction.map fun digits => '.' :: orZero digits).getD []
    some (orZero whole ++ point ++ exponent, rest)

/-- Reads a number after its sign. -/
def unsigned? (signed : Bool) (cs : LooseText) : Option (RelaxedJson × LooseText) :=
  let hex? : Option (List Char × LooseText) :=
    match cs with
    | .char '0' :: .char x :: rest =>
      if (x = 'x' ∨ x = 'X') ∧ startsHex 1 rest then some (span isHex rest) else none
    | _ => none
  let named (count : Nat) : Bool :=
    let letters := (word (cs.take count)).1
    letters.length = count && ["inf", "infinity"].contains (lower letters)
  match hex? with
  | some (digits, rest) =>
    let (text, exceeds) := hexText digits
    some (.num text exceeds, rest)
  | none =>
    if signed && named 8 then some (.num infinity false, cs.drop 8)
    else if signed && named 3 then some (.num infinity false, cs.drop 3)
    else (decimal? cs).map fun r => (.num r.1 false, r.2)

/-- Reads a number. -/
def number? (cs : LooseText) : Option (RelaxedJson × LooseText) :=
  match cs with
  | .char '+' :: rest => unsigned? true rest
  | .char '-' :: rest =>
    (unsigned? true rest).map fun r =>
      match r.1 with
      | .num text exceeds => (.num ('-' :: text) exceeds, r.2)
      | v => (v, r.2)
  | _ => unsigned? false cs

/-- A character that may start a key without quotes. -/
def startsName (c : Char) : Bool :=
  ('a' ≤ c && c ≤ 'z') || ('A' ≤ c && c ≤ 'Z') || c = '_' || c = '$' || 0x80 ≤ c.toNat

/-- Reads a key without quotes up to its end, as written. -/
def name : LooseText → LooseText × LooseText
  | .char '\\' :: .char 'u' :: rest =>
    if startsHex 4 rest then
      let r := name rest
      (.char '\\' :: .char 'u' :: r.1, r.2)
    else ([], .char '\\' :: .char 'u' :: rest)
  | .char c :: rest =>
    if (startsName c || NumberText.isDigit c) && !isBlank c then
      let r := name rest
      (.char c :: r.1, r.2)
    else ([], .char c :: rest)
  | .unit u :: rest =>
    let r := name rest
    (.unit u :: r.1, r.2)
  | [] => ([], [])

/-- Reads a key, with or without quotes.  A literal cannot be a key, not even with more characters
after it unless they are letters or digits. -/
def key? (cs : LooseText) : Option (LooseText × LooseText) :=
  match cs with
  | .char '"' :: rest => string? '"' rest
  | .char '\'' :: rest => string? '\'' rest
  | .char c :: _ =>
    if NumberText.isDigit c || (literal? (word cs).1).isSome || (name cs).1 = [] then none
    else some (name cs)
  | _ => if (name cs).1 = [] then none else some (name cs)

end LooseText

namespace RelaxedJson

/-! ## Values -/

open LooseText (skipBlank)

mutual

/-- Reads a value in which at most `limit` brackets are open at a time. -/
def value? (limit : Nat) : Nat → LooseText → Option (RelaxedJson × LooseText)
  | 0, _ => none
  | fuel + 1, cs =>
    match limit, cs with
    | limit + 1, .char '[' :: rest =>
      (items? limit fuel [] (skipBlank rest)).map fun r => (.arr r.1, r.2)
    | limit + 1, .char '\x7b' :: rest =>
      (members? limit fuel [] (skipBlank rest)).map fun r => (.obj r.1, r.2)
    | _, .char c :: rest =>
      if c = '"' ∨ c = '\'' then
        (LooseText.string? c rest).map fun r => (.str r.1, r.2)
      else
        let (letters, rest) := LooseText.word cs
        match LooseText.literal? letters with
        | some v => some (v, rest)
        | none => LooseText.number? cs
    | _, _ => none

/-- Reads the items of an array up to its end, with those before in reverse. -/
def items? (limit : Nat) : Nat → List RelaxedJson → LooseText →
    Option (List RelaxedJson × LooseText)
  | 0, _, _ => none
  | fuel + 1, before, cs =>
    match cs with
    | .char ']' :: rest => some (before.reverse, rest)
    | _ => do
      let (v, rest) ← value? limit fuel cs
      match skipBlank rest with
      | .char ',' :: rest => items? limit fuel (v :: before) (skipBlank rest)
      | .char ']' :: rest => some ((v :: before).reverse, rest)
      | _ => none

/-- Reads the members of an object up to its end, with those before in reverse. -/
def members? (limit : Nat) : Nat → List (LooseText × RelaxedJson) → LooseText →
    Option (List (LooseText × RelaxedJson) × LooseText)
  | 0, _, _ => none
  | fuel + 1, before, cs =>
    match cs with
    | .char '\x7d' :: rest => some (before.reverse, rest)
    | _ => do
      let (key, rest) ← LooseText.key? cs
      let .char ':' :: rest := skipBlank rest | none
      let (v, rest) ← value? limit fuel (skipBlank rest)
      match skipBlank rest with
      | .char ',' :: rest => members? limit fuel ((key, v) :: before) (skipBlank rest)
      | .char '\x7d' :: rest => some (((key, v) :: before).reverse, rest)
      | _ => none

end

/-- The greatest number of brackets open at a time. -/
def nestingLimit : Nat := 1000

/-- The tree of a text; `none` if the text is not relaxed JSON. -/
def parse? (text : LooseText) : Option RelaxedJson := do
  let text := text.takeWhile (· ≠ .char '\x00')
  let (v, rest) ← value? nestingLimit (text.length + 1) (skipBlank text)
  if skipBlank rest = [] then some v else none

end RelaxedJson
end ProxyFeed
