import ProxyFeed.Json.Record

/-!
# Scalars of a TOML document

Strings in their four spellings, numbers, truth values, dates and times.

A reader takes a list of characters and gives what it read together with the rest; `none` is an
error.  Nothing distinguishes errors further.

## What is here

* `TomlScalar` — a scalar.  Floats and times are checked and then forgotten: no setting is one.
  Integers have to fit 128 bits.
* `TomlScalar.string?` — a quoted string.
* `TomlScalar.bare?` — a scalar without quotes, from the whole of its characters.
-/

set_option autoImplicit false
namespace ProxyFeed

/-- A scalar of a TOML document. -/
inductive TomlScalar where
  | string (s : String)
  | integer (n : Int)
  | boolean (b : Bool)
  | float
  | time
deriving DecidableEq, Repr

namespace TomlScalar

/-! ## Strings -/

/-- A character that a comment or a string on one line may hold. -/
def isInline (c : Char) : Bool := c = '\t' || (0x20 ≤ c.toNat && c.toNat ≠ 0x7F)

/-- Drops a line break: a line feed, or a carriage return followed by one. -/
def lineBreak? : List Char → Option (List Char)
  | '\n' :: rest => some rest
  | '\r' :: '\n' :: rest => some rest
  | _ => none

/-- The number of `n` hexadecimal digits, and the rest. -/
def hexDigits? : Nat → Nat → List Char → Option (Nat × List Char)
  | 0, value, cs => some (value, cs)
  | n + 1, value, c :: cs =>
    match Json.Scanner.hexValue? c with
    | some d => hexDigits? n (value * 16 + d) cs
    | none => none
  | _ + 1, _, [] => none

/-- The character with a code point, if there is one. -/
def charOf? (n : Nat) : Option Char := if n.isValidChar then some (Char.ofNat n) else none

/-- Reads an escape after its backslash. -/
def escape? : List Char → Option (Char × List Char)
  | [] => none
  | c :: cs =>
    let coded (digits : Nat) : Option (Char × List Char) := do
      let (n, rest) ← hexDigits? digits 0 cs
      return (← charOf? n, rest)
    if c = 'x' then coded 2
    else if c = 'u' then coded 4
    else if c = 'U' then coded 8
    else
      let plain : Option Char :=
        if c = 'b' then some '\x08'
        else if c = 't' then some '\t'
        else if c = 'n' then some '\n'
        else if c = 'f' then some '\x0c'
        else if c = 'r' then some '\r'
        else if c = 'e' then some '\x1b'
        else if c = '"' then some '"'
        else if c = '\\' then some '\\'
        else none
      plain.map fun d => (d, cs)

/-- Reads a basic string on one line, after its opening quote. -/
def basic? : Nat → List Char → List Char → Option (List Char × List Char)
  | 0, _, _ => none
  | _ + 1, _, [] => none
  | fuel + 1, acc, c :: cs =>
    if c = '"' then some (acc.reverse, cs)
    else if c = '\\' then do
      let (d, rest) ← escape? cs
      basic? fuel (d :: acc) rest
    else if isInline c then basic? fuel (c :: acc) cs
    else none

/-- Reads a literal string on one line, after its opening quote. -/
def literal? (cs : List Char) : Option (List Char × List Char) :=
  let text := cs.takeWhile fun c => c ≠ '\'' && isInline c
  match cs.drop text.length with
  | '\'' :: rest => some (text, rest)
  | _ => none

/-- The quotes at the end of a string on several lines: up to two of them belong to the string. -/
def closing? (quote : Char) (acc : List Char) (cs : List Char) : Option (List Char × List Char) :=
  let quotes := (cs.takeWhile (· = quote)).length
  if quotes < 3 then none
  else
    let inside := min (quotes - 3) 2
    some ((List.replicate inside quote ++ acc).reverse, cs.drop (3 + inside))

/-- Drops blanks and line breaks. -/
def skipSpace : List Char → List Char
  | ' ' :: rest => skipSpace rest
  | '\t' :: rest => skipSpace rest
  | '\n' :: rest => skipSpace rest
  | '\r' :: '\n' :: rest => skipSpace rest
  | cs => cs

/-- A backslash at the end of a line: the rest after the white space that follows it. -/
def continued? (cs : List Char) : Option (List Char) :=
  (lineBreak? (cs.dropWhile fun c => c = ' ' || c = '\t')).map skipSpace

/-- Reads a string on several lines, after its opening quotes; line breaks stay as written. -/
def multiLine? (quote : Char) : Nat → List Char → List Char → Option (List Char × List Char)
  | 0, _, _ => none
  | _ + 1, _, [] => none
  | fuel + 1, acc, c :: cs =>
    if c = quote then
      match closing? quote acc (c :: cs) with
      | some found => some found
      | none => multiLine? quote fuel (c :: acc) cs
    else if c = '\\' ∧ quote = '"' then
      match continued? cs with
      | some rest => multiLine? quote fuel acc rest
      | none => do
        let (d, rest) ← escape? cs
        multiLine? quote fuel (d :: acc) rest
    else if isInline c ∨ (lineBreak? (c :: cs)).isSome then multiLine? quote fuel (c :: acc) cs
    else none

/-- The rest after a line break that starts a string on several lines. -/
def skipFirstBreak (cs : List Char) : List Char := (lineBreak? cs).getD cs

/-- Reads a string on one line, quotes included. -/
def inlineString? : List Char → Option (List Char × List Char)
  | '"' :: cs => basic? (cs.length + 1) [] cs
  | '\'' :: cs => literal? cs
  | _ => none

/-- Reads a string, quotes included. -/
def string? : List Char → Option (List Char × List Char)
  | '"' :: '"' :: '"' :: cs => multiLine? '"' (cs.length + 1) [] (skipFirstBreak cs)
  | '\'' :: '\'' :: '\'' :: cs => multiLine? '\'' (cs.length + 1) [] (skipFirstBreak cs)
  | cs => inlineString? cs

/-! ## Scalars without quotes -/

/-- A decimal digit. -/
def isDigit (c : Char) : Bool := '0' ≤ c && c ≤ '9'

/-- Digits with single underscores between them, without the underscores. -/
def grouped? (isDigit : Char → Bool) : List Char → Option (List Char)
  | [] => none
  | [d] => if isDigit d then some [d] else none
  | d :: '_' :: rest => if isDigit d then (grouped? isDigit rest).map (d :: ·) else none
  | d :: rest => if isDigit d then (grouped? isDigit rest).map (d :: ·) else none

/-- The number of digits in a base. -/
def numberOf (base : Nat) (ds : List Char) : Nat :=
  ds.foldl (fun n d => n * base + (Json.Scanner.hexValue? d).getD 0) 0

/-- Decimal digits without a superfluous zero in front. -/
def decimal? (cs : List Char) : Option (List Char) :=
  match grouped? isDigit cs with
  | some ('0' :: _ :: _) => none
  | ds => ds

/-- A sign and what follows it. -/
def signed (cs : List Char) : Bool × List Char :=
  match cs with
  | '-' :: rest => (true, rest)
  | '+' :: rest => (false, rest)
  | rest => (false, rest)

/-- An integer as written. -/
def integer? (cs : List Char) : Option Int :=
  let inBase (base : Nat) (isDigit : Char → Bool) (ds : List Char) : Option Int :=
    (grouped? isDigit ds).map fun ds => numberOf base ds
  match cs with
  | '0' :: 'x' :: ds => inBase 16 (fun c => (Json.Scanner.hexValue? c).isSome) ds
  | '0' :: 'o' :: ds => inBase 8 (fun c => '0' ≤ c && c ≤ '7') ds
  | '0' :: 'b' :: ds => inBase 2 (fun c => c = '0' || c = '1') ds
  | _ =>
    let (negative, ds) := signed cs
    (decimal? ds).map fun ds => if negative then -(numberOf 10 ds : Int) else numberOf 10 ds

/-- Does an integer fit 128 bits, signed or unsigned? -/
def fitsInteger (n : Int) : Bool :=
  -0x80000000000000000000000000000000 ≤ n && n ≤ 0xFFFFFFFFFFFFFFFFFFFFFFFFFFFFFFFF

/-- Does `digits * 10 ^ scale` round to a finite binary64 value?  The count of digits decides all
but the numbers near the limit. -/
def isFinite (digits : List Char) (scale : Int) : Bool :=
  let digits := digits.dropWhile (· = '0')
  let magnitude := (digits.length : Int) + scale
  if digits = [] ∨ magnitude ≤ 308 then true
  else if 310 ≤ magnitude then false
  else
    (Binary64.ofRatio (numberOf 10 digits * Nat.pow 10 scale.toNat)
      (Nat.pow 10 (-scale).toNat)).isSome

/-- The digits of an exponent as a number. -/
def exponentOf? (cs : List Char) : Option Int :=
  let (negative, ds) := signed cs
  (grouped? isDigit ds).map fun ds => if negative then -(numberOf 10 ds : Int) else numberOf 10 ds

/-- Is the text a float?  A number has to be finite as a binary64 value. -/
def isFloat (cs : List Char) : Bool :=
  let body := (signed cs).2
  if body = "inf".toList ∨ body = "nan".toList then true
  else
    let isE (c : Char) : Bool := c = 'e' || c = 'E'
    let mantissa := body.takeWhile fun c => !isE c
    let exponent? :=
      match body.dropWhile fun c => !isE c with
      | [] => some 0
      | _ :: e => exponentOf? e
    let fraction? :=
      match mantissa.dropWhile (· ≠ '.') with
      | [] => some []
      | _ :: f => grouped? isDigit f
    match decimal? (mantissa.takeWhile (· ≠ '.')), fraction?, exponent? with
    | some whole, some fraction, some e =>
      (body.any fun c => isE c || c = '.') && isFinite (whole ++ fraction) (e - fraction.length)
    | _, _, _ => false

/-- The number of `n` decimal digits, and the rest. -/
def digits? (n : Nat) (cs : List Char) : Option (Nat × List Char) :=
  let ds := cs.take n
  if ds.length = n ∧ ds.all isDigit then some (numberOf 10 ds, cs.drop n) else none

/-- The days of a month. -/
def daysIn (year month : Nat) : Nat :=
  if month = 2 then
    if year % 4 = 0 ∧ (year % 100 ≠ 0 ∨ year % 400 = 0) then 29 else 28
  else if [4, 6, 9, 11].contains month then 30
  else 31

/-- Reads a date. -/
def date? (cs : List Char) : Option (List Char) := do
  let (y, '-' :: cs) ← digits? 4 cs | none
  let (m, '-' :: cs) ← digits? 2 cs | none
  let (d, cs) ← digits? 2 cs
  if 1 ≤ m ∧ m ≤ 12 ∧ 1 ≤ d ∧ d ≤ daysIn y m then some cs else none

/-- Reads a time of the day; seconds may be left out. -/
def clock? (cs : List Char) : Option (List Char) := do
  let (h, ':' :: cs) ← digits? 2 cs | none
  let (m, cs) ← digits? 2 cs
  if 23 < h ∨ 59 < m then none
  else
    match cs with
    | ':' :: cs => do
      let (s, cs) ← digits? 2 cs
      if 60 < s then none
      else
        match cs with
        | '.' :: cs =>
          let fraction := cs.takeWhile isDigit
          if fraction = [] then none else some (cs.drop fraction.length)
        | _ => some cs
    | _ => some cs

/-- Is the text an offset from universal time, or nothing? -/
def isOffset (cs : List Char) : Bool :=
  match cs with
  | [] => true
  | [c] => c = 'Z' || c = 'z'
  | c :: cs =>
    (c = '+' || c = '-') &&
      match digits? 2 cs with
      | some (h, ':' :: cs) =>
        match digits? 2 cs with
        | some (m, []) => h ≤ 23 && m ≤ 59
        | _ => false
      | _ => false

/-- Is the text a date, a time, or both? -/
def isTime (cs : List Char) : Bool :=
  match date? cs with
  | some [] => true
  | some (c :: rest) =>
    (c = 'T' || c = 't' || c = ' ') &&
      match clock? rest with
      | some rest => isOffset rest
      | none => false
  | none => clock? cs = some []

/-- The scalar a text without quotes is. -/
def bare? (cs : List Char) : Option TomlScalar :=
  if cs = "true".toList then some (.boolean true)
  else if cs = "false".toList then some (.boolean false)
  else
    match integer? cs with
    | some n => if fitsInteger n then some (.integer n) else none
    | none => if isFloat cs then some .float else if isTime cs then some .time else none

end TomlScalar
end ProxyFeed
