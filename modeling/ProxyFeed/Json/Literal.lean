import ProxyFeed.Json.Basic
import ProxyFeed.Number.Shortest

/-!
# Numbers and strings in JSON texts

## What is here

* `NumberText` — a number as written, cut into sign, digits and exponent; `NumberText.value?` is
  the number it names, if that is not beyond the binary64 range.
* `Json.Number.text` — how a number is written: integers in decimal, other values in the shortest
  digits that read back, positionally for decimal exponents from -5 to 15.
* `Json.Piece` — a string as written: characters, and UTF-16 units given by escapes;
  `Json.joinPieces` pairs the surrogates.
* `Json.quoted` — how a string is written.

A significand that would not fit 64 bits drops its remaining digits, and the value is then one
rounded product or quotient of the significand and a power of ten.  Texts with more digits than that
can therefore come out one unit away from the nearest binary64 value.
-/

set_option autoImplicit false
namespace ProxyFeed

/-! ## Reading a number -/

/-- A number as written. -/
structure NumberText where
  negative : Bool
  whole : List Char
  /-- The digits after the point, if there is one. -/
  fraction : Option (List Char)
  /-- Whether the exponent is negative, and its digits, if there is one. -/
  exponent : Option (Bool × List Char)
deriving DecidableEq, Repr

namespace NumberText

/-- A decimal digit. -/
def isDigit (c : Char) : Bool := '0' ≤ c && c ≤ '9'

/-- Reads an optional exponent up to the end. -/
def exponent? : List Char → Option (Option (Bool × List Char))
  | [] => some none
  | e :: rest =>
    if e = 'e' ∨ e = 'E' then
      let (negative, digits) :=
        match rest with
        | '+' :: ds => (false, ds)
        | '-' :: ds => (true, ds)
        | ds => (false, ds)
      if digits ≠ [] ∧ digits.all isDigit then some (some (negative, digits)) else none
    else none

/-- Cuts a whole text; `none` if it is not a number.  No digit may precede a zero that starts the
whole part, and a point needs digits on both sides. -/
def parse? (cs : List Char) : Option NumberText := do
  let (negative, rest) :=
    match cs with
    | '-' :: r => (true, r)
    | r => (false, r)
  let whole := rest.takeWhile isDigit
  let rest := rest.dropWhile isDigit
  if whole = [] ∨ (whole.head? = some '0' ∧ whole.length ≠ 1) then none
  else
    match rest with
    | '.' :: r =>
      let fraction := r.takeWhile isDigit
      let e ← exponent? (r.dropWhile isDigit)
      if fraction = [] then none else some ⟨negative, whole, some fraction, e⟩
    | r => do
      let e ← exponent? r
      some ⟨negative, whole, none, e⟩

/-- The number a list of digits names. -/
def digitsValue (ds : List Char) : Nat := ds.foldl (fun n d => n * 10 + (d.toNat - '0'.toNat)) 0

/-- The greatest significand. -/
def maxSignificand : Nat := 0xFFFFFFFFFFFFFFFF

/-- Appends whole digits while the significand fits 64 bits; each later digit is counted instead. -/
def takeWhole : Nat → List Char → Nat × Nat
  | n, [] => (n, 0)
  | n, d :: ds =>
    let m := n * 10 + (d.toNat - '0'.toNat)
    if m ≤ maxSignificand then takeWhole m ds else (n, ds.length + 1)

/-- Appends fraction digits while the significand fits 64 bits, and counts them. -/
def takeFraction : Nat → Nat → List Char → Nat × Nat
  | n, k, [] => (n, k)
  | n, k, d :: ds =>
    let m := n * 10 + (d.toNat - '0'.toNat)
    if m ≤ maxSignificand then takeFraction m (k + 1) ds else (n, k)

/-- The binary64 value of `x * 10 ^ k`: one rounded multiplication or division by a rounded power of
ten.  Powers beyond `10 ^ 308` are divided out in several steps, or are out of range. -/
def scale : Nat → Binary64 → Int → Option Binary64
  | 0, _, _ => some Binary64.zero
  | fuel + 1, x, k =>
    if k.natAbs ≤ 308 then do
      let p ← Binary64.pow10 k.natAbs
      if 0 ≤ k then x.mul p else x.div p
    else if x.significand = 0 then some x
    else if 0 ≤ k then none
    else do
      let p ← Binary64.pow10 308
      scale fuel (← x.div p) (k + 308)

/-- The number a text names; `none` beyond the binary64 range. -/
def value? (t : NumberText) : Option Json.Number := do
  let (n, dropped) := takeWhole 0 t.whole
  let (m, places) := takeFraction n 0 (t.fraction.getD [])
  let e : Int :=
    match t.exponent with
    | none => 0
    | some (negative, ds) => if negative then -(digitsValue ds : Int) else digitsValue ds
  if t.fraction = none ∧ t.exponent = none ∧ dropped = 0 then
    if !t.negative then some (.int n)
    else if n = 0 ∨ 0x8000000000000000 < n then return .float true (← Binary64.ofNat n)
    else some (.int (-(n : Int)))
  else
    -- three divisions take any significand below the least positive value
    let x ← scale 4 (← Binary64.ofNat m) ((dropped : Int) - (places : Int) + e)
    return .float t.negative x

end NumberText

/-! ## Writing a number -/

/-- The digits of a decimal laid out around the point, or with an exponent. -/
def Decimal.text (c : Decimal) : List Char :=
  let ds := Nat.toDigits 10 c.digits
  -- the value is `0.d₁d₂… * 10 ^ point`
  let point : Int := c.scale + (ds.length : Int)
  if point ≤ -5 ∨ 16 < point then
    let mantissa :=
      match ds with
      | [] => []
      | d :: [] => [d]
      | d :: rest => d :: '.' :: rest
    let e := point - 1
    mantissa ++ 'e' :: (if e < 0 then '-' else '+') :: Nat.toDigits 10 e.natAbs
  else if point ≤ 0 then '0' :: '.' :: (List.replicate (-point).toNat '0' ++ ds)
  else if c.scale < 0 then ds.take point.toNat ++ '.' :: ds.drop point.toNat
  else ds ++ List.replicate c.scale.toNat '0' ++ ['.', '0']

/-- A number as text. -/
def Json.Number.text : Json.Number → List Char
  | .int n => (toString n).toList
  | .float negative x =>
    (if negative then ['-'] else []) ++
      if x.significand = 0 then ['0', '.', '0'] else (Decimal.shortest x).text

namespace Json

/-! ## Strings -/

/-- A part of a string as written. -/
inductive Piece where
  | char (c : Char)
  /-- A UTF-16 unit given by an escape of four hexadecimal digits. -/
  | unit (u : Nat)
deriving DecidableEq, Repr

/-- Is the unit the first of a surrogate pair? -/
def isLead (u : Nat) : Bool := 0xD800 ≤ u && u ≤ 0xDBFF

/-- Is the unit the second of a surrogate pair? -/
def isTrail (u : Nat) : Bool := 0xDC00 ≤ u && u ≤ 0xDFFF

/-- The characters of a string; `none` if a surrogate has no partner. -/
def joinPieces : List Piece → Option (List Char)
  | [] => some []
  | .char c :: rest => (joinPieces rest).map (c :: ·)
  | .unit u :: .unit v :: rest =>
    if isLead u then
      if isTrail v then
        (joinPieces rest).map (Char.ofNat (0x10000 + (u - 0xD800) * 0x400 + (v - 0xDC00)) :: ·)
      else none
    else if isTrail u then none
    else (joinPieces (.unit v :: rest)).map (Char.ofNat u :: ·)
  | .unit u :: rest =>
    if isLead u || isTrail u then none else (joinPieces rest).map (Char.ofNat u :: ·)

/-- The lower-case hexadecimal digit of a number below 16. -/
def lowerHex (n : Nat) : Char :=
  if n < 10 then Char.ofNat ('0'.toNat + n) else Char.ofNat ('a'.toNat + (n - 10))

/-- One character of a string as written. -/
def escaped (c : Char) : List Char :=
  if c = '"' then ['\\', '"']
  else if c = '\\' then ['\\', '\\']
  else if c = '\n' then ['\\', 'n']
  else if c = '\r' then ['\\', 'r']
  else if c = '\t' then ['\\', 't']
  else if c = '\x08' then ['\\', 'b']
  else if c = '\x0c' then ['\\', 'f']
  else if c.toNat < 0x20 then
    ['\\', 'u', '0', '0', lowerHex (c.toNat / 16), lowerHex (c.toNat % 16)]
  else [c]

/-- A string as written. -/
def quoted (s : String) : List Char := '"' :: (s.toList.flatMap escaped ++ ['"'])

end Json
end ProxyFeed
