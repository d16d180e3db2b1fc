/-!
# Replacing a text

Every occurrence of a pattern, looked for from left to right and without overlaps, gives way to
another text.
-/

set_option autoImplicit false
namespace ProxyFeed
namespace Replace

/-- Walks a text with `skip` characters of a replaced occurrence still to pass over. -/
def walk (pattern new : List Char) : Nat → List Char → List Char
  | _, [] => []
  | skip + 1, _ :: cs => walk pattern new skip cs
  | 0, c :: cs =>
    if pattern.isPrefixOf (c :: cs) then new ++ walk pattern new (pattern.length - 1) cs
    else c :: walk pattern new 0 cs

/-- The text with every occurrence of a non-empty pattern replaced. -/
def all (pattern new text : List Char) : List Char := walk pattern new 0 text

end Replace

/-- The string with every occurrence of a non-empty pattern replaced. -/
def replaceAll (s pattern new : String) : String :=
  String.ofList (Replace.all pattern.toList new.toList s.toList)

end ProxyFeed
