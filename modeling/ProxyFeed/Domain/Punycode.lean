import ProxyFeed.Text.Percent

/-!
# Punycode

A label with characters beyond ASCII is written as its ASCII characters and, after a hyphen, letters
and digits that say where the other characters go.

## What is here

* `Punycode.decode?` — the label that a text writes.
* `Punycode.encode` — the text of a label.

The other characters come in increasing order.  Each is given by how far the pair of code point and
place moved since the one before, as a number whose digits have thresholds that adapt.
-/

set_option autoImplicit false
namespace ProxyFeed
namespace Punycode

/-- The base of the digits. -/
def base : Nat := 36

/-- The bias at the start. -/
def initialBias : Nat := 72

/-- The first code point that is not written as it is. -/
def initialCodePoint : Nat := 0x80

/-- Numbers stay below this. -/
def limit : Nat := 0x100000000

/-- The value of a digit. -/
def digitValue? (c : Char) : Option Nat :=
  if 'a' ≤ c ∧ c ≤ 'z' then some (c.toNat - 'a'.toNat)
  else if 'A' ≤ c ∧ c ≤ 'Z' then some (c.toNat - 'A'.toNat)
  else if '0' ≤ c ∧ c ≤ '9' then some (c.toNat - '0'.toNat + 26)
  else none

/-- The digit of a value. -/
def digit (n : Nat) : Char :=
  if n < 26 then Char.ofNat ('a'.toNat + n) else Char.ofNat ('0'.toNat + (n - 26))

/-- The threshold of the digit at a place, counted in steps of the base. -/
def threshold (place bias : Nat) : Nat :=
  if place ≤ bias then 1 else if bias + 26 ≤ place then 26 else place - bias

/-- Divides a distance until it is small, and counts the divisions in steps of the base. -/
def shrink : Nat → Nat → Nat × Nat
  | 0, delta => (delta, 0)
  | steps + 1, delta =>
    if 455 < delta then
      let (rest, place) := shrink steps (delta / 35)
      (rest, place + base)
    else (delta, 0)

/-- The bias after a distance, when the label has so many characters. -/
def adapt (delta count : Nat) (first : Bool) : Nat :=
  let delta := if first then delta / 700 else delta / 2
  let (delta, place) := shrink delta.log2 (delta + delta / count)
  place + 36 * delta / (delta + 38)

/-! ## Reading -/

/-- Reads a number and adds it to another one; gives the sum and the rest. -/
def number? (bias : Nat) : List Char → Nat → Nat → Nat → Option (Nat × List Char)
  | [], _, _, _ => none
  | c :: rest, place, weight, sum => do
    let d ← digitValue? c
    let sum := sum + d * weight
    let t := threshold place bias
    if limit ≤ sum then none
    else if d < t then some (sum, rest)
    else if limit ≤ weight * (base - t) then none
    else number? bias rest (place + base) (weight * (base - t)) sum

/-- Where the last character went, and the label so far. -/
structure Progress where
  codePoint : Nat := initialCodePoint
  place : Nat := 0
  bias : Nat := initialBias
  label : List Char

/-- Puts the characters that a text writes into a label, at most so many. -/
def extend? : Nat → Progress → List Char → Option (List Char)
  | 0, _, _ => none
  | _ + 1, p, [] => some p.label
  | count + 1, p, cs => do
    let (sum, rest) ← number? p.bias cs base 1 p.place
    let length := p.label.length + 1
    let codePoint := p.codePoint + sum / length
    let place := sum % length
    if codePoint.isValidChar then
      extend? count
        ⟨codePoint, place + 1, adapt (sum - p.place) length (p.place = 0),
          p.label.take place ++ Char.ofNat codePoint :: p.label.drop place⟩ rest
    else none

/-- The label that a text writes; the ASCII characters are those before its last hyphen. -/
def decode? (cs : List Char) : Option (List Char) :=
  let digits := (cs.reverse.takeWhile (· ≠ '-')).reverse
  let plain := cs.take (cs.length - digits.length - 1)
  if plain = [] ∧ digits.length ≠ cs.length then none
  else extend? (digits.length + 1) { label := plain } digits

/-! ## Writing -/

/-- The digits of a number, at most so many. -/
def digits (bias : Nat) : Nat → Nat → Nat → List Char
  | 0, _, _ => []
  | count + 1, place, n =>
    let t := threshold place bias
    if n < t then [digit n]
    else
      digit (t + (n - t) % (base - t)) ::
        digits bias count (place + base) ((n - t) / (base - t))

/-- A text in the making: the distance since the last character, and how many are written. -/
structure Draft where
  delta : Nat := 0
  bias : Nat := initialBias
  written : Nat
  text : List Char := []

/-- Passes over a character of the label while the characters of one code point are written. -/
def Draft.push (plain codePoint : Nat) (d : Draft) (c : Char) : Draft :=
  if c.toNat < codePoint then { d with delta := d.delta + 1 }
  else if c.toNat = codePoint then
    ⟨0, adapt d.delta (d.written + 1) (d.written = plain), d.written + 1,
      d.text ++ digits d.bias (d.delta.log2 + 2) base d.delta⟩
  else d

/-- Writes the characters of increasing code points. -/
def write (label : List Char) (plain : Nat) : Nat → List Nat → Draft → List Char
  | _, [], d => d.text
  | next, n :: rest, d =>
    let d := { d with delta := d.delta + (n - next) * (d.written + 1) }
    let d := label.foldl (Draft.push plain n) d
    write label plain (n + 1) rest { d with delta := d.delta + 1 }

/-- The text of a label. -/
def encode (label : List Char) : List Char :=
  let plain := label.filter (·.toNat < 0x80)
  let others := ((label.map Char.toNat).filter (0x80 ≤ ·)).eraseDups.mergeSort
  plain ++ (if plain = [] then [] else ['-']) ++
    write label plain.length initialCodePoint others { written := plain.length }

end Punycode
end ProxyFeed
