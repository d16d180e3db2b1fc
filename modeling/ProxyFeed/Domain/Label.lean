import ProxyFeed.Text.Direction
import ProxyFeed.Text.Joining
import ProxyFeed.Text.Mark

/-!
# Labels of domain names

What a label, one of the parts of a domain name between the dots, has to look like.

## What is here

* `Label.isJoined` — a joiner stands only where joining makes a difference.
* `Label.isDirected` — a label is written in one direction, as it has to be in a name with letters
  from right to left.
* `Label.isWellFormed` — the rules that hold for every label.
-/

set_option autoImplicit false
namespace ProxyFeed
namespace Label

/-! ## Joiners -/

/-- The combining class of the marks that take the vowel from a consonant. -/
def viramaClass : Nat := 9

/-- Does the first character that is not transparent join in one of these ways? -/
def joins (ways : List Joining) : List Char → Bool
  | [] => false
  | c :: rest =>
    if ways.contains (Joining.ofChar c) then true
    else if Joining.ofChar c = .transparent then joins ways rest
    else false

/-- May a joiner, or the opposite of one, stand between the text before it, in reverse, and the text
after it? -/
def mayJoin (joiner : Bool) (before after : List Char) : Bool :=
  before.head?.any (Mark.combiningClass · = viramaClass) ||
    (!joiner && joins [.left, .dual] before && joins [.right, .dual] after)

/-- Does every joiner stand where it may?  The text before is given in reverse. -/
def isJoinedAfter : List Char → List Char → Bool
  | _, [] => true
  | before, c :: rest =>
    (if c = '\u200C' then mayJoin false before rest
      else if c = '\u200D' then mayJoin true before rest
      else true) && isJoinedAfter (c :: before) rest

/-- Does every joiner stand where it may? -/
def isJoined (label : List Char) : Bool := isJoinedAfter [] label

/-! ## Direction -/

/-- Is the character written from right to left?  No ASCII character is. -/
def isRightToLeft (c : Char) : Bool :=
  0x80 ≤ c.toNat && [Direction.rightToLeft, .arabicLetter, .arabicNumber].contains (.ofChar c)

/-- The classes that may stand within a label, whatever its direction. -/
def common : List Direction :=
  [.europeanNumber, .europeanSeparator, .commonSeparator, .europeanTerminator, .neutral, .boundary,
    .nonspacing]

/-- The classes without the marks at the end. -/
def withoutMarks (ds : List Direction) : List Direction :=
  (ds.reverse.dropWhile (· = .nonspacing)).reverse

/-- Is a label written in one direction?  The first character decides which; a label from right to
left has only one kind of numbers. -/
def isDirected (label : List Char) : Bool :=
  match label.map Direction.ofChar with
  | [] => true
  | .leftToRight :: rest =>
    rest.all (fun d => d = .leftToRight || common.contains d) &&
      ((withoutMarks rest).getLast?.all fun d => d = .leftToRight || d = .europeanNumber)
  | first :: rest =>
    (first = .rightToLeft || first = .arabicLetter) &&
      (rest.all fun d =>
        [.rightToLeft, .arabicLetter, .arabicNumber].contains d || common.contains d) &&
      ((withoutMarks rest).getLast?.all fun d =>
        [.rightToLeft, .arabicLetter, .arabicNumber, .europeanNumber].contains d) &&
      !(rest.contains .europeanNumber && rest.contains .arabicNumber)

/-! ## All labels -/

/-- The most characters of a label that has to be encoded. -/
def maxLength : Nat := 1000

/-- A label does not begin with a mark and holds joiners only where they may stand. -/
def isWellFormed (label : List Char) : Bool :=
  !label.head?.any Mark.isMark && isJoined label &&
    (label.all (·.toNat < 0x80) || label.length ≤ maxLength)

end Label
end ProxyFeed
