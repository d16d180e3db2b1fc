import ProxyFeed.Text.Form

/-!
# Sets of characters

Properties of characters are tables of a standard.  A table is written as rows of text, so that it
can be compared with the standard, and read once.

## What is here

* `CodePoints` — a set of code points, as ranges in increasing order.
* `CodePoints.ofRows` — the set that rows of text list: `483-489` is a range and `5BF` one code
  point, in hexadecimal digits and separated by spaces.
* `CodePoints.contains` — is a character in the set?
-/

set_option autoImplicit false
namespace ProxyFeed

/-- A set of code points, as ranges with their ends in increasing order. -/
abbrev CodePoints := List (Nat × Nat)

namespace CodePoints

/-- The number that hexadecimal digits write. -/
def hexNumber (cs : List Char) : Nat :=
  cs.foldl (fun n c => n * 16 + (Percent.hexValue? c).getD 0) 0

/-- The words of rows of text, which single spaces separate. -/
def wordsOf (rows : List String) : List (List Char) :=
  rows.flatMap fun row => Form.splitAt ' ' row.toList

/-- The range that a word writes. -/
def range (word : List Char) : Nat × Nat :=
  let low := word.takeWhile (· ≠ '-')
  match word.drop low.length with
  | [] => (hexNumber low, hexNumber low)
  | _ :: high => (hexNumber low, hexNumber high)

/-- The set that rows of text list. -/
def ofRows (rows : List String) : CodePoints := (wordsOf rows).map range

/-- Is a character in the set? -/
def contains (s : CodePoints) (c : Char) : Bool :=
  s.any fun r => r.1 ≤ c.toNat && c.toNat ≤ r.2

end CodePoints
end ProxyFeed
