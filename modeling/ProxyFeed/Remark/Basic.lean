import ProxyFeed.Inbound.Basic
import ProxyFeed.Number.Saturating
import ProxyFeed.Remark.ByteSize
import ProxyFeed.Remark.CalendarDate

/-!
# Remarks

The display name of a link, put together by a model: a separator followed by letters that order the
parts, `i` for the inbound, `e` for the client and `o` for an external proxy.

## What is here

* `RemarkFormat` — a model and whether the remaining traffic is shown.
* `RemarkFormat.compose` — the name from its three parts.
* `RemarkFormat.render` — the name with the traffic of the client.
-/

set_option autoImplicit false
namespace ProxyFeed

/-- How names are put together. -/
structure RemarkFormat where
  model : String
  showInfo : Bool
deriving DecidableEq, Repr

namespace RemarkFormat

/-- The model that stands in for one of fewer than two characters. -/
def defaultModel : List Char := ['-', 'i', 'e', 'o']

/-- The characters of the model. -/
def modelChars (f : RemarkFormat) : List Char :=
  if f.model.toList.length < 2 then defaultModel else f.model.toList

/-- The part a letter of the model stands for. -/
def part (remark email extra : String) (letter : Char) : Option String :=
  if letter = 'i' then some remark
  else if letter = 'e' then some email
  else if letter = 'o' then some extra
  else none

/-- The parts the model asks for that are not empty, joined by its separator. -/
def compose (f : RemarkFormat) (remark email extra : String) : String :=
  let separator := String.ofList (f.modelChars.take 1)
  let parts := (f.modelChars.drop 1).filterMap (part remark email extra)
  separator.intercalate (parts.filter (· ≠ ""))

/-- What is left of an allowance. -/
def remaining (t : Traffic) : Int64 := Saturating.satSub (Saturating.satSub t.total t.up) t.down

/-- What is left of an allowance, and the day it ends, each if there is one. -/
def trafficSuffix (t : Traffic) : String :=
  let left := if 0 < t.total then " | " ++ ByteSize.text (remaining t) else ""
  let until_ :=
    if 0 < t.expiryTime then
      match CalendarDate.ofSeconds? (t.expiryTime.toInt / 1000) with
      | some date => " | " ++ date.text
      | none => ""
    else ""
  left ++ until_

/-- The name of a link for a client of an inbound. -/
def render (f : RemarkFormat) (inbound : Inbound) (email extra : String) : String :=
  let suffix :=
    if f.showInfo then ((inbound.trafficFor email).map trafficSuffix).getD "" else ""
  f.compose inbound.remark email extra ++ suffix

end RemarkFormat
end ProxyFeed
