/-!
# Calendar dates

The proleptic Gregorian date of a day counted from 1 January 1970, and its text.

The count is shifted to begin on 1 March of the year 0, so that a leap day ends a year and a cycle
of four centuries has a fixed number of days.
-/

set_option autoImplicit false
namespace ProxyFeed

/-- A date: year, month from 1, day of the month from 1. -/
structure CalendarDate where
  year : Int
  month : Nat
  day : Nat
deriving DecidableEq, Repr

namespace CalendarDate

/-- The date of a day counted from 1 January 1970. -/
def ofDay (day : Int) : CalendarDate :=
  let z := day + 719468
  let cycle := z.fdiv 146097
  let dayOfCycle := (z.fmod 146097).toNat
  let yearOfCycle :=
    (dayOfCycle - dayOfCycle / 1460 + dayOfCycle / 36524 - dayOfCycle / 146096) / 365
  let dayOfYear := dayOfCycle - (365 * yearOfCycle + yearOfCycle / 4 - yearOfCycle / 100)
  let shiftedMonth := (5 * dayOfYear + 2) / 153
  let month := if shiftedMonth < 10 then shiftedMonth + 3 else shiftedMonth - 9
  let year := (yearOfCycle : Int) + cycle * 400 + (if month ≤ 2 then 1 else 0)
  ⟨year, month, dayOfYear - (153 * shiftedMonth + 2) / 5 + 1⟩

/-- The last year a date can have. -/
def lastYear : Int := 262142

/-- The date of a number of seconds since 1970, up to the last year. -/
def ofSeconds? (seconds : Int) : Option CalendarDate :=
  let date := ofDay (seconds.fdiv 86400)
  if date.year ≤ lastYear then some date else none

/-- A number with zeros in front up to a width. -/
def padded (width n : Nat) : String :=
  let ds := Nat.toDigits 10 n
  String.ofList (List.replicate (width - ds.length) '0' ++ ds)

/-- Year, month and day joined by hyphens.  A year of more than four digits carries a plus sign. -/
def text (d : CalendarDate) : String :=
  let year := if 9999 < d.year then "+" ++ padded 5 d.year.toNat else padded 4 d.year.toNat
  year ++ "-" ++ padded 2 d.month ++ "-" ++ padded 2 d.day

end CalendarDate
end ProxyFeed
