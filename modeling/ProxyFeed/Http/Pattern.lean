/-!
# Path patterns

A route is published under a pattern: fixed text, and parameters that stand for the text up to the
next slash.  `{name}` is a parameter; a brace that is meant as such is written twice.

## What is here

* `Pattern.ofText` — the pattern a text writes.
* `Pattern.match?` — the values of the parameters, in order, if a path has the pattern.
* `Pattern.precedes` — which of two patterns a path belongs to when it has both.

A path is matched before it is decoded, so an encoded slash does not end a parameter.
-/

set_option autoImplicit false
namespace ProxyFeed

/-- A part of a pattern. -/
inductive PatternPart where
  | fixed (c : Char)
  | parameter (name : String)
deriving DecidableEq, Repr

/-- A pattern of paths. -/
abbrev Pattern := List PatternPart

/-- Parameters by name, with the text each stands for. -/
abbrev PathArguments := List (String × List Char)

namespace Pattern

/-- The pattern a text writes.  Inside the braces of a parameter the letters of its name are given
in reverse. -/
def read : Option (List Char) → List Char → Pattern
  | none, '\x7b' :: '\x7b' :: rest => .fixed '\x7b' :: read none rest
  | none, '\x7d' :: '\x7d' :: rest => .fixed '\x7d' :: read none rest
  | none, '\x7b' :: rest => read (some []) rest
  | none, c :: rest => .fixed c :: read none rest
  | some name, '\x7d' :: '\x7d' :: rest => read (some ('\x7d' :: name)) rest
  | some name, '\x7d' :: rest => .parameter (String.ofList name.reverse) :: read none rest
  | some name, c :: rest => read (some (c :: name)) rest
  | _, [] => []

/-- The pattern a text writes. -/
def ofText (text : String) : Pattern := read none text.toList

/-- The values of the parameters if a path has the pattern.  A parameter may stand for no text at
all, unless it ends the pattern. -/
def match? : Pattern → List Char → Option PathArguments
  | [], [] => some []
  | .fixed c :: rest, d :: ds => if c = d then match? rest ds else none
  | .parameter name :: rest, ds =>
    let value := ds.takeWhile (· ≠ '/')
    if value = [] ∧ rest = [] then none
    else (match? rest (ds.dropWhile (· ≠ '/'))).map ((name, value) :: ·)
  | _, _ => none

/-- Does a path with both patterns belong to the first?  Where they first differ in kind, fixed text
wins over a parameter. -/
def precedes : Pattern → Pattern → Bool
  | .fixed _ :: _, .parameter _ :: _ => true
  | .fixed c :: p, .fixed d :: q => c = d && precedes p q
  | .parameter _ :: p, .parameter _ :: q => precedes p q
  | _, _ => false

end Pattern
end ProxyFeed
