/-!
# Saturating counters

Traffic counters are 64-bit signed integers that stop at the ends of their range instead of
wrapping around.

## What is here

* `clamp` takes an integer to the nearest 64-bit signed integer.
* `satAdd` and `satSub` add and subtract by clamping the exact result.
-/

set_option autoImplicit false
namespace ProxyFeed
namespace Saturating

/-- The 64-bit signed integer nearest to `n`. -/
def clamp (n : Int) : Int64 :=
  if n < Int64.minValue.toInt then Int64.minValue
  else if Int64.maxValue.toInt < n then Int64.maxValue
  else Int64.ofInt n

/-- The exact sum, clamped. -/
def satAdd (a b : Int64) : Int64 := clamp (a.toInt + b.toInt)

/-- The exact difference, clamped. -/
def satSub (a b : Int64) : Int64 := clamp (a.toInt - b.toInt)

end Saturating
end ProxyFeed
