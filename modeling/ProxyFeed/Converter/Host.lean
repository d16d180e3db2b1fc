import ProxyFeed.Domain.Basic

/-!
# Hosts of URLs

A host is a domain name, an IPv4 address in one of its many spellings, or an IPv6 address in
brackets.

## What is here

* `UrlHost.ipv4?` and `UrlHost.ipv6?` — the numbers of an address.
* `UrlHost.parse?` — the text of a host as it stands in a URL of the web: names in their ASCII form,
  addresses in their one canonical spelling.
* `UrlHost.isVerbatim` — may a text be the host of another URL, which is taken as it is?
-/

set_option autoImplicit false
namespace ProxyFeed
namespace UrlHost

/-! ## IPv4 -/

/-- A number in an IPv4 address: hexadecimal after `0x`, octal after `0`, else decimal. -/
def number? (cs : List Char) : Option Nat :=
  let inBase (base : Nat) (ds : List Char) : Option Nat :=
    ds.foldlM (fun n d => do
      let v ← Percent.hexValue? d
      if v < base then some (n * base + v) else none) 0
  match cs with
  | [] => none
  | '0' :: 'x' :: ds => inBase 16 ds
  | '0' :: 'X' :: ds => inBase 16 ds
  | '0' :: ds => inBase 8 ds
  | ds => inBase 10 ds

/-- The parts of a name between dots, without the empty one after a last dot. -/
def labels (cs : List Char) : List (List Char) :=
  let parts := Form.splitAt '.' cs
  if 1 < parts.length ∧ parts.getLast? = some [] then parts.dropLast else parts

/-- Does a name end in a number, so that it has to be an IPv4 address? -/
def endsInNumber (cs : List Char) : Bool :=
  match (labels cs).getLast? with
  | none => false
  | some last =>
    last ≠ [] &&
      (last.all (fun c => '0' ≤ c && c ≤ '9') ||
        match last with
        | '0' :: x :: ds => (x = 'x' || x = 'X') && ds.all fun c => (Percent.hexValue? c).isSome
        | _ => false)

/-- The address in a name of up to four numbers, the last of which fills the remaining bytes. -/
def ipv4? (cs : List Char) : Option Nat := do
  let numbers ← (labels cs).mapM number?
  let last ← numbers.getLast?
  let front := numbers.dropLast
  if 4 < numbers.length ∨ front.any (255 < ·) ∨ Nat.pow 256 (5 - numbers.length) ≤ last then none
  else some (front.foldl (fun n b => n * 256 + b) 0 * Nat.pow 256 (5 - numbers.length) + last)

/-- An IPv4 address as four numbers. -/
def ipv4Text (n : Nat) : List Char :=
  ['.'].intercalate
    ([n / 0x1000000, n / 0x10000 % 256, n / 256 % 256, n % 256].map (Nat.toDigits 10))

/-! ## IPv6 -/

/-- One piece of an IPv6 address: up to four hexadecimal digits. -/
def piece? (cs : List Char) : Option Nat :=
  if cs = [] ∨ 4 < cs.length then none
  else cs.foldlM (fun n d => (Percent.hexValue? d).map (n * 16 + ·)) 0

/-- The two pieces of an IPv4 address at the end of an IPv6 address. -/
def tail4? (cs : List Char) : Option (List Nat) := do
  let parts := Form.splitAt '.' cs
  let bytes ← parts.mapM fun p =>
    if p ≠ [] ∧ p.all (fun c => '0' ≤ c && c ≤ '9') ∧ (p.length = 1 ∨ p.head? ≠ some '0') ∧
        p.length ≤ 3 then number? p else none
  match bytes with
  | [a, b, c, d] => if bytes.all (· ≤ 255) then some [a * 256 + b, c * 256 + d] else none
  | _ => none

/-- The pieces between colons; the last may be an IPv4 address. -/
def pieces? : List (List Char) → Option (List Nat)
  | [] => some []
  | [p] => if p.contains '.' then tail4? p else (piece? p).map ([·])
  | p :: ps => do return (← piece? p) :: (← pieces? ps)

/-- The text before and after the first double colon. -/
def splitGap : List Char → Option (List Char × List Char)
  | ':' :: ':' :: rest => some ([], rest)
  | c :: rest => (splitGap rest).map fun r => (c :: r.1, r.2)
  | [] => none

/-- The pieces of a part of an address, which may be empty. -/
def part? (cs : List Char) : Option (List Nat) :=
  if cs = [] then some [] else pieces? (Form.splitAt ':' cs)

/-- The eight pieces of an IPv6 address. -/
def ipv6? (cs : List Char) : Option (List Nat) :=
  match splitGap cs with
  | none => do
    let ps ← part? cs
    if ps.length = 8 then some ps else none
  | some (front, back) => do
    let a ← part? front
    let b ← part? back
    if a.length + b.length < 8 ∧ !front.contains '.' then
      some (a ++ List.replicate (8 - a.length - b.length) 0 ++ b)
    else none

/-- The number of zeros a list starts with. -/
def zerosAtFront (ps : List Nat) : Nat := (ps.takeWhile (· = 0)).length

/-- Where the first of the longest runs of zeros starts, and its length. -/
def longestGap (ps : List Nat) : Nat × Nat :=
  (List.range ps.length).foldl (fun best i =>
    if best.2 < zerosAtFront (ps.drop i) then (i, zerosAtFront (ps.drop i)) else best) (0, 0)

/-- Pieces joined by colons. -/
def piecesText (ps : List Nat) : List Char := [':'].intercalate (ps.map (Nat.toDigits 16))

/-- An IPv6 address with the first of its longest runs of two or more zeros left out. -/
def ipv6Text (ps : List Nat) : List Char :=
  let (start, length) := longestGap ps
  if length < 2 then piecesText ps
  else piecesText (ps.take start) ++ ':' :: ':' :: piecesText (ps.drop (start + length))

/-! ## Any host -/

/-- The text of an address in brackets, after the first. -/
def bracketed? (cs : List Char) : Option (List Char) :=
  if cs.getLast? = some ']' then
    (ipv6? cs.dropLast).map fun ps => '[' :: (ipv6Text ps ++ [']'])
  else none

/-- The text of a host as it stands in a URL of the web. -/
def parse? (cs : List Char) : Option (List Char) :=
  match cs with
  | '[' :: rest => bracketed? rest
  | _ => do
    let name ← DomainName.ascii? (← Utf8.decode? (Percent.decode cs))
    if name = [] then none
    else if endsInNumber name then (ipv4? name).map ipv4Text
    else some name

/-- May a text be a host that is taken as it is? -/
def isVerbatim (cs : List Char) : Bool :=
  !cs.any fun c => "\x00\t\n\r #/:<>?@[\\]^|".toList.contains c

end UrlHost
end ProxyFeed
