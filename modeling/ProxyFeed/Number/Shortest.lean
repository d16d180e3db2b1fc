import ProxyFeed.Number.Binary64

/-!
# Shortest decimal digits

The fewest decimal digits that still name a given binary64 value, and of those the digits nearest
to it.

A decimal names a binary64 value when it lies in the interval of numbers that round to the value.
Among the decimals of `n` digits only the two neighbours of the value on the `n`-digit grid can be
nearest, so it is enough to try both for `n = 1, 2, …, 17`.
-/

set_option autoImplicit false
namespace ProxyFeed

/-- The number `digits * 10 ^ scale`. -/
structure Decimal where
  digits : Nat
  scale : Int
deriving DecidableEq, Repr

namespace Decimal

/-- `10 ^ k` as a quotient, for an exponent of either sign. -/
def powRatio (k : Int) : Nat × Nat := (Nat.pow 10 k.toNat, Nat.pow 10 (-k).toNat)

/-- The interval of numbers that round to `x`: four times its two ends over a common denominator,
and whether the ends belong to it. -/
structure Neighbourhood where
  low : Nat
  high : Nat
  den : Nat
  closed : Bool
deriving Repr

/-- The interval around a positive value.  Below a power of two the neighbours are twice as close,
except at the least exponent. -/
def neighbourhood (x : Binary64) : Neighbourhood :=
  let (n, d) := x.toRatio
  let (u, _) := Binary64.toRatio ⟨1, x.exponent⟩
  let below := if x.significand = Binary64.leadingBit ∧ x.exponent ≠ -1074 then u else 2 * u
  ⟨4 * n - below, 4 * n + 2 * u, 4 * d, x.significand % 2 = 0⟩

/-- Does `digits * 10 ^ scale` round to the value? -/
def Neighbourhood.contains (i : Neighbourhood) (c : Decimal) : Bool :=
  let (p, q) := powRatio c.scale
  let v := c.digits * p * i.den
  if i.closed then i.low * q ≤ v && v ≤ i.high * q else i.low * q < v && v < i.high * q

/-- The least `k` with `num / den < 10 ^ k`, for a positive quotient; found near the quotient of the
numbers' binary logarithms. -/
def magnitude (num den : Nat) : Int :=
  let guess : Int := ((num.log2 : Int) - (den.log2 : Int)) * 1233 / 4096
  let below (k : Int) : Bool := let (p, q) := powRatio k; num * q < p * den
  (([guess - 1, guess, guess + 1] : List Int).find? below).getD (guess + 2)

/-- The neighbours on the grid of `n` digits that name the value, nearest first. -/
def onGrid (x : Binary64) (i : Neighbourhood) (k : Int) (n : Nat) : Option Decimal :=
  let scale := k - (n : Int)
  let (num, den) := x.toRatio
  let (p, q) := powRatio scale
  let floor := num * q / (den * p)
  let below : Decimal := ⟨floor, scale⟩
  let above : Decimal := ⟨floor + 1, scale⟩
  -- twice the distance to the lower neighbour, in units of the grid
  let twice := 2 * (num * q % (den * p))
  let lowerFirst := twice < den * p || (twice = den * p && floor % 2 = 0)
  let order := if lowerFirst then [below, above] else [above, below]
  order.find? fun c => c.digits ≠ 0 && i.contains c

/-- Moves trailing zero digits into the scale. -/
def stripZeros : Nat → Decimal → Decimal
  | 0, c => c
  | fuel + 1, c =>
    if c.digits ≠ 0 ∧ c.digits % 10 = 0 then stripZeros fuel ⟨c.digits / 10, c.scale + 1⟩ else c

/-- The shortest decimal that names a positive value, nearest to it among those. -/
def shortest (x : Binary64) : Decimal :=
  let i := neighbourhood x
  let k := magnitude x.toRatio.1 x.toRatio.2
  let found := ((List.range 17).map (· + 1)).findSome? (onGrid x i k)
  stripZeros 20 (found.getD ⟨x.significand, x.exponent⟩)

end Decimal
end ProxyFeed
