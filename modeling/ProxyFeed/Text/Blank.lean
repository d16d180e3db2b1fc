/-!
# White space

The characters with the Unicode property `White_Space`, and cutting them off both ends of a text.
-/

set_option autoImplicit false
namespace ProxyFeed
namespace Blank

/-- The code points with the property `White_Space`. -/
def codePoints : List Nat :=
  [0x9, 0xA, 0xB, 0xC, 0xD, 0x20, 0x85, 0xA0, 0x1680, 0x2000, 0x2001, 0x2002, 0x2003, 0x2004,
    0x2005, 0x2006, 0x2007, 0x2008, 0x2009, 0x200A, 0x2028, 0x2029, 0x202F, 0x205F, 0x3000]

/-- Is the character white space? -/
def isBlank (c : Char) : Bool := codePoints.contains c.toNat

/-- A text without the characters of a kind at its two ends. -/
def trimBy (p : Char → Bool) (cs : List Char) : List Char :=
  ((cs.dropWhile p).reverse.dropWhile p).reverse

/-- A text without the white space at its two ends. -/
def trim (cs : List Char) : List Char := trimBy isBlank cs

end Blank

/-- A string without the white space at its two ends. -/
def trimmed (s : String) : String := String.ofList (Blank.trim s.toList)

end ProxyFeed
