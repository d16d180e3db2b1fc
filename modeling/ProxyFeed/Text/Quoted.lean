import ProxyFeed.Text.Printable

/-!
# Texts in messages

A message shows a text between quotes and escapes what would not be seen.

## What is here

* `Quoted.text` — a text between quotes.
-/

set_option autoImplicit false
namespace ProxyFeed
namespace Quoted

/-- One character: quotes, backslashes and the common controls have short escapes, and other
characters that are not shown as they are become their code point in braces. -/
def char (c : Char) : List Char :=
  if c = '"' ∨ c = '\\' then ['\\', c]
  else if c = '\x00' then ['\\', '0']
  else if c = '\t' then ['\\', 't']
  else if c = '\n' then ['\\', 'n']
  else if c = '\r' then ['\\', 'r']
  else if Printable.isShown c then [c]
  else '\\' :: 'u' :: '\x7b' :: (Nat.toDigits 16 c.toNat ++ ['\x7d'])

/-- A text between quotes. -/
def text (s : String) : String := String.ofList ('"' :: (s.toList.flatMap char ++ ['"']))

end Quoted
end ProxyFeed
