import ProxyFeed.Text.Percent

/-!
# Form encoding

The `application/x-www-form-urlencoded` format: pairs joined by `&`, key and value joined by `=`, a
space written `+`, and every byte outside `A-Za-z0-9*-._` written as a percent escape.

## What is here

* `Form.encodeText`, `Form.encode` — one text, and a list of pairs.
* `Form.decodeText`, `Form.decode` — the bytes a text stands for, and the pairs of a query.
-/

set_option autoImplicit false
namespace ProxyFeed
namespace Form

/-- The characters that stand for themselves. -/
def isPlain (c : Char) : Bool := Percent.isAlphanumeric c || "*-._".toList.contains c

/-- One key or value. -/
def encodeText (s : String) : List Char :=
  (Percent.encode (fun c => isPlain c || c = ' ') (utf8 s)).map fun c => if c = ' ' then '+' else c

/-- One pair. -/
def encodePair (kv : String × String) : List Char := encodeText kv.1 ++ '=' :: encodeText kv.2

/-- Pairs in the order given. -/
def encode (pairs : List (String × String)) : List Char :=
  ['&'].intercalate (pairs.map encodePair)

/-- The bytes of one key or value. -/
def decodeText (cs : List Char) : List UInt8 :=
  Percent.decode (cs.map fun c => if c = '+' then ' ' else c)

/-- Cuts a text at every occurrence of a character. -/
def splitAt (sep : Char) : List Char → List (List Char)
  | [] => [[]]
  | c :: cs =>
    if c = sep then [] :: splitAt sep cs
    else
      match splitAt sep cs with
      | [] => [[c]]
      | part :: parts => (c :: part) :: parts

/-- The key and the value of one pair; a pair without `=` has an empty value. -/
def decodePair (cs : List Char) : List UInt8 × List UInt8 :=
  (decodeText (cs.takeWhile (· ≠ '=')), decodeText ((cs.dropWhile (· ≠ '=')).drop 1))

/-- The pairs of a query, as bytes; empty pieces between separators are no pairs. -/
def decode (cs : List Char) : List (List UInt8 × List UInt8) :=
  ((splitAt '&' cs).filter (· ≠ [])).map decodePair

end Form
end ProxyFeed
