import ProxyFeed.Number.Rounding

/-!
# Byte sizes

A number of bytes for display: plain below 1024, else in KB, MB or GB with one decimal.

The number is first kept to 53 binary digits, then divided exactly by its unit, then rounded to one
decimal, ties to even both times.  The unit is chosen before any rounding, so `1024.0KB` can appear.
-/

set_option autoImplicit false
namespace ProxyFeed
namespace ByteSize

/-- The bytes in a KB. -/
def kilo : Nat := 1024

/-- The bytes in a MB. -/
def mega : Nat := 1048576

/-- The bytes in a GB. -/
def giga : Nat := 1073741824

/-- The tenths of a unit a number of bytes comes to. -/
def tenths (bytes unit : Nat) : Nat := Rounding.halfEven (10 * Rounding.significant53 bytes) unit

/-- A number of tenths in decimal. -/
def tenthsText (t : Nat) : String := toString (t / 10) ++ "." ++ toString (t % 10)

/-- A number of bytes for display; numbers below 1024, negative ones included, stay as they are. -/
def text (bytes : Int64) : String :=
  let n := bytes.toInt.toNat
  if bytes.toInt < kilo then toString bytes.toInt ++ "B"
  else if n < mega then tenthsText (tenths n kilo) ++ "KB"
  else if n < giga then tenthsText (tenths n mega) ++ "MB"
  else tenthsText (tenths n giga) ++ "GB"

end ByteSize
end ProxyFeed
