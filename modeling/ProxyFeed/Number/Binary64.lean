import ProxyFeed.Number.Rounding

/-!
# Binary64 magnitudes

The non-negative finite values of the IEEE 754 binary64 format, as pairs of natural number and
exponent, with the correctly rounded operations that reading a decimal number needs.  Everything is
exact integer arithmetic followed by one rounding, so each operation can be unfolded in a proof.

## What is here

* `Binary64` — the number `significand * 2 ^ exponent`.
* `Binary64.ofRatio` — the value nearest to a quotient, or nothing when that is beyond the largest
  finite value.
* `Binary64.mul`, `Binary64.div`, `Binary64.pow10` — the operations used on decimal digits.
-/

set_option autoImplicit false
namespace ProxyFeed

/-- The number `significand * 2 ^ exponent`.  Values made by `ofRatio` have a significand below
`2 ^ 53`, and one of exactly 53 binary digits unless the exponent is the least one, `-1074`. -/
structure Binary64 where
  significand : Nat
  exponent : Int
deriving DecidableEq, Repr

namespace Binary64

/-- Zero, with the least exponent. -/
def zero : Binary64 := ⟨0, -1074⟩

/-- The weight of the first of 53 binary digits. -/
def leadingBit : Nat := 0x10000000000000

/-- The value as a quotient of natural numbers. -/
def toRatio (x : Binary64) : Nat × Nat :=
  (x.significand * Nat.pow 2 x.exponent.toNat, Nat.pow 2 (-x.exponent).toNat)

/-- `num / den` divided by `2 ^ e`, as a quotient. -/
def shifted (num den : Nat) (e : Int) : Nat × Nat :=
  (num * Nat.pow 2 (-e).toNat, den * Nat.pow 2 e.toNat)

/-- The exponent at which a positive quotient has 53 binary digits before the point, and never less
than the least exponent. -/
def exponentFor (num den : Nat) : Int :=
  let guess : Int := (num.log2 : Int) - (den.log2 : Int) - 52
  let (a, b) := shifted num den guess
  -- the logarithms leave one binary digit undecided
  let e := if a < b * leadingBit then guess - 1 else guess
  max e (-1074)

/-- The binary64 value nearest to `num / den`, ties to an even significand; `none` when that value
is infinite. -/
def ofRatio (num den : Nat) : Option Binary64 :=
  if num = 0 then some zero
  else
    let e := exponentFor num den
    let (a, b) := shifted num den e
    let m := Rounding.halfEven a b
    let x : Binary64 := if m = 2 * leadingBit then ⟨leadingBit, e + 1⟩ else ⟨m, e⟩
    if x.significand = 0 then some zero
    else if 971 < x.exponent then none
    else some x

/-- The value nearest to a natural number. -/
def ofNat (n : Nat) : Option Binary64 := ofRatio n 1

/-- The value nearest to `10 ^ k`. -/
def pow10 (k : Nat) : Option Binary64 := ofNat (Nat.pow 10 k)

/-- The value nearest to a product. -/
def mul (x y : Binary64) : Option Binary64 :=
  ofRatio (x.toRatio.1 * y.toRatio.1) (x.toRatio.2 * y.toRatio.2)

/-- The value nearest to a quotient. -/
def div (x y : Binary64) : Option Binary64 :=
  ofRatio (x.toRatio.1 * y.toRatio.2) (x.toRatio.2 * y.toRatio.1)

end Binary64
end ProxyFeed
