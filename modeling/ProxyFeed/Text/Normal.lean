import ProxyFeed.Text.Composition
import ProxyFeed.Text.Mark

/-!
# Composed texts

One text can be written with marks of their own or with composed characters.  The composed form is
one writing for all of them.

## What is here

* `Normal.decomposed` — a text in which every character is taken apart, and the marks on a character
  stand in the order of their classes.
* `Normal.composed` — that text put together again.
-/

set_option autoImplicit false
namespace ProxyFeed
namespace Normal

open Mark (combiningClass)

/-- A character taken apart, in at most so many steps. -/
def parts : Nat → Char → List Char
  | 0, c => [c]
  | steps + 1, c =>
    if c.toNat < 0x80 then [c]
    else
      match Composition.decompose? c with
      | some (a, b) => parts steps a ++ [b]
      | none => [c]

/-- The most steps it takes to take a character apart. -/
def maxSteps : Nat := 4

/-- Puts a mark before the marks of higher classes that follow it directly. -/
def insertMark (m : Char × Nat) : List (Char × Nat) → List (Char × Nat)
  | [] => [m]
  | n :: rest =>
    if n.2 ≠ 0 ∧ n.2 < m.2 ∧ m.2 ≠ 0 then n :: insertMark m rest else m :: n :: rest

/-- A text taken apart, with the class of each character; marks of one character stand in the order
of their classes. -/
def decomposed (cs : List Char) : List (Char × Nat) :=
  ((cs.flatMap (parts maxSteps)).map fun c => (c, combiningClass c)).foldr insertMark []

/-- A text that is put together: the finished characters in reverse, the last character that marks
can join, and the marks after it in reverse. -/
structure Draft where
  done : List Char := []
  base : Option Char := none
  marks : List (Char × Nat) := []

namespace Draft

/-- The characters so far, in reverse. -/
def characters (d : Draft) : List Char := d.marks.map (·.1) ++ (d.base.toList ++ d.done)

/-- Can a character of a class join the base?  A mark in between keeps others of its class, and all
that are no marks, from it. -/
def reaches (d : Draft) (rank : Nat) : Bool :=
  match d.marks with
  | [] => true
  | last :: _ => last.2 < rank

/-- Adds a character. -/
def push (d : Draft) (c : Char × Nat) : Draft :=
  match d.base.bind fun base => if d.reaches c.2 then Composition.compose? base c.1 else none with
  | some whole => { d with base := some whole }
  | none =>
    if c.2 = 0 then ⟨d.characters, some c.1, []⟩ else { d with marks := c :: d.marks }

end Draft

/-- A text in its composed form. -/
def composed (cs : List Char) : List Char :=
  (((decomposed cs).foldl Draft.push {}).characters).reverse

end Normal
end ProxyFeed
