/-!
# Rounding a quotient

Every place that rounds in this library rounds an exact quotient of natural numbers to the nearest
integer, and a quotient halfway between two integers goes to the even one.

## What is here

* `halfEven a b` is `a / b` rounded that way.
* `significant53 n` keeps the 53 leading binary digits of `n`: the value that a binary64 number has
  after `n` is stored in it.
-/

set_option autoImplicit false
namespace ProxyFeed
namespace Rounding

/-- The integer nearest to `a / b`; of two equally near, the even one. -/
def halfEven (a b : Nat) : Nat :=
  if 2 * (a % b) < b then a / b
  else if b < 2 * (a % b) then a / b + 1
  else a / b + a / b % 2

/-- The multiple of `2 ^ (digits of n - 53)` nearest to `n`; numbers of at most 53 binary digits are
kept as they are. -/
def significant53 (n : Nat) : Nat :=
  halfEven n (Nat.pow 2 (n.log2 - 52)) * Nat.pow 2 (n.log2 - 52)

end Rounding
end ProxyFeed
