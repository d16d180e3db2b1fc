import ProxyFeed.Domain.Label
import ProxyFeed.Domain.Mapping
import ProxyFeed.Domain.Punycode
import ProxyFeed.Text.Normal

/-!
# Domain names

A domain name in a URL may hold letters of any script.  It is compared and sent in an ASCII form.

## What is here

* `DomainName.labels?` — the labels of a name in their one writing, or nothing if it is not a domain
  name.
* `DomainName.ascii?` — the ASCII form of a name.

A label that is already in its ASCII form is read, checked and kept.
-/

set_option autoImplicit false
namespace ProxyFeed
namespace DomainName

/-- A character that no domain name in a URL holds. -/
def isForbidden (c : Char) : Bool :=
  c.toNat ≤ 0x20 || c.toNat = 0x7F || "%#/:<>?@[\\]^|".toList.contains c

/-- What the ASCII form of a label with other characters starts with. -/
def encodedStart : List Char := "xn--".toList

/-- The most characters of an encoded label that are decoded. -/
def maxEncodedLength : Nat := 2000

/-- The label that an encoded one stands for, after its start.  It has to be in its one writing. -/
def decoded? (cs : List Char) : Option (List Char) :=
  if cs = [] ∨ cs.getLast? = some '-' ∨ maxEncodedLength < cs.length ∨
      !cs.all (·.toNat < 0x80) then none
  else
    (Punycode.decode? (cs.map Char.toLower)).filter fun label =>
      label.all Mapping.isKept && Normal.composed label = label &&
        !label.any fun c => isForbidden c || c = '.'

/-- A label in its one writing. -/
def label? (cs : List Char) : Option (List Char) := do
  let label ←
    if encodedStart.isPrefixOf cs then decoded? (cs.drop encodedStart.length) else some cs
  if Label.isWellFormed label then some label else none

/-- The labels that a part of a name between dots stands for.  The characters before the last ASCII
one in front of the others cannot be composed with anything, so they are looked at on their own. -/
def part? (cs : List Char) : Option (List (List Char)) := do
  let plain := cs.takeWhile (·.toNat < 0x80)
  let start := if plain.length = cs.length then plain else plain.dropLast
  let mapped ← (cs.drop start.length).mapM Mapping.ofChar?
  let text := start.map Char.toLower ++ Normal.composed mapped.flatten
  if text.any isForbidden then none else (Form.splitAt '.' text).mapM label?

/-- The labels of a name in their one writing. -/
def labels? (cs : List Char) : Option (List (List Char)) := do
  let labels := (← (Form.splitAt '.' cs).mapM part?).flatten
  if labels.any (·.any Label.isRightToLeft) && !labels.all Label.isDirected then none
  else some labels

/-- The ASCII form of a label. -/
def asciiLabel (label : List Char) : List Char :=
  if label.all (·.toNat < 0x80) then label else encodedStart ++ Punycode.encode label

/-- The ASCII form of a name. -/
def ascii? (cs : List Char) : Option (List Char) :=
  (labels? cs).map fun labels => ['.'].intercalate (labels.map asciiLabel)

end DomainName
end ProxyFeed
