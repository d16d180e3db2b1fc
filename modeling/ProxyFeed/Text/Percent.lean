import ProxyFeed.Text.Utf8

/-!
# Percent escapes

A byte that may not stand as it is becomes `%` and two upper-case hexadecimal digits.  What may
stand depends on the place: a URI fragment and a URI userinfo have alphabets of their own.

## What is here

* `Percent.encode` — escapes every byte outside an alphabet.
* `Percent.decode` — replaces every complete escape by its byte; an incomplete or malformed escape
  stands for itself.
* `Percent.fragment` and `Percent.userinfo` — the encoders of the two places.
-/

set_option autoImplicit false
namespace ProxyFeed
namespace Percent

/-- The upper-case hexadecimal digit of a number below 16. -/
def hexDigit (n : Nat) : Char :=
  if n < 10 then Char.ofNat ('0'.toNat + n) else Char.ofNat ('A'.toNat + (n - 10))

/-- The value of a hexadecimal digit of either case. -/
def hexValue? (c : Char) : Option Nat :=
  if '0' ≤ c ∧ c ≤ '9' then some (c.toNat - '0'.toNat)
  else if 'A' ≤ c ∧ c ≤ 'F' then some (c.toNat - 'A'.toNat + 10)
  else if 'a' ≤ c ∧ c ≤ 'f' then some (c.toNat - 'a'.toNat + 10)
  else none

/-- The escape of one byte. -/
def escape (b : UInt8) : List Char := ['%', hexDigit (b.toNat / 16), hexDigit (b.toNat % 16)]

/-- Bytes as text: those in the alphabet as they are, the others escaped. -/
def encode (keep : Char → Bool) (bs : List UInt8) : List Char :=
  bs.flatMap fun b => if keep (Char.ofNat b.toNat) then [Char.ofNat b.toNat] else escape b

/-- The bytes a text stands for. -/
def decode : List Char → List UInt8
  | '%' :: a :: b :: rest =>
    match hexValue? a, hexValue? b with
    | some x, some y => UInt8.ofNat (16 * x + y) :: decode rest
    | _, _ => 0x25 :: decode (a :: b :: rest)
  | c :: rest => String.utf8EncodeChar c ++ decode rest
  | [] => []

/-- An ASCII letter or digit. -/
def isAlphanumeric (c : Char) : Bool :=
  ('a' ≤ c && c ≤ 'z') || ('A' ≤ c && c ≤ 'Z') || ('0' ≤ c && c ≤ '9')

/-- The characters of a fragment that stand for themselves. -/
def inFragment (c : Char) : Bool := isAlphanumeric c || "-_.~".toList.contains c

/-- The characters of a userinfo that stand for themselves. -/
def inUserinfo (c : Char) : Bool := isAlphanumeric c || "-._~!$&'()*+,;=".toList.contains c

/-- A text as a URI fragment. -/
def fragment (s : String) : List Char := encode inFragment (utf8 s)

/-- A text as a URI userinfo. -/
def userinfo (s : String) : List Char := encode inUserinfo (utf8 s)

end Percent
end ProxyFeed
