import ProxyFeed.Random.ChaCha

/-!
# Spider paths

A reality link tells the client a path to start crawling from, drawn afresh for every rendering: a
slash and fifteen letters or digits.

## What is here

* `SpiderSource` — a state that spider paths can be drawn from.
* `WordSource` — a state that hands out 32-bit words; it draws a letter by rejection, from the six
  highest bits of a word.
* `CyclicWords` — a fixed list of words, over and over.
-/

set_option autoImplicit false
namespace ProxyFeed

/-- A state that spider paths can be drawn from. -/
class SpiderSource (ρ : Type) where
  /-- Draws a path, and gives the state after it. -/
  draw : ρ → String × ρ

/-- A state that hands out 32-bit words. -/
class WordSource (ρ : Type) where
  /-- The next word, and the state after it. -/
  next : ρ → UInt32 × ρ

namespace Spider

/-- The letters and digits of a path. -/
def alphabet : List Char :=
  "ABCDEFGHIJKLMNOPQRSTUVWXYZabcdefghijklmnopqrstuvwxyz0123456789".toList

/-- The letter a word stands for: its six highest bits as a place in the alphabet, if there is such
a place. -/
def letter? (w : UInt32) : Option Char := alphabet[(w >>> 26).toNat]?

/-- How many words in a row may stand for no letter.  Drawing goes on until a word stands for one,
without a bound; the bound here is for the sake of a function that ends.  Two of sixty-four values
stand for no letter, so a run of this length does not happen to a generator that is any good.  For a
source that has one, the first letter is given, and nothing is meant by it: there, drawing would not
have ended yet. -/
def patience : Nat := 65536

/-- Draws a letter: the first word that stands for one, of a number of words. -/
def drawLetter {ρ : Type} [WordSource ρ] : Nat → ρ → Char × ρ
  | 0, s => ('A', s)
  | n + 1, s =>
    let (w, s) := WordSource.next s
    match letter? w with
    | some c => (c, s)
    | none => drawLetter n s

/-- Draws a number of letters. -/
def drawLetters {ρ : Type} [WordSource ρ] : Nat → ρ → List Char × ρ
  | 0, s => ([], s)
  | n + 1, s =>
    let (c, s) := drawLetter patience s
    let (cs, s) := drawLetters n s
    (c :: cs, s)

/-- The letters in a path. -/
def length : Nat := 15

end Spider

/-- Words are enough to draw paths. -/
instance instSpiderSourceOfWordSource {ρ : Type} [WordSource ρ] : SpiderSource ρ where
  draw s :=
    let (cs, s) := Spider.drawLetters Spider.length s
    (String.ofList ('/' :: cs), s)

/-- The words of a keystream. -/
instance : WordSource ChaCha where
  next := ChaCha.next

/-- A list of words handed out over and over; zeros if it is empty. -/
structure CyclicWords where
  all : List UInt32
  rest : List UInt32
deriving DecidableEq, Repr

namespace CyclicWords

/-- The start of a list. -/
def ofList (words : List UInt32) : CyclicWords := ⟨words, words⟩

/-- The next word. -/
def next (s : CyclicWords) : UInt32 × CyclicWords :=
  match s.rest with
  | w :: ws => (w, { s with rest := ws })
  | [] =>
    match s.all with
    | w :: ws => (w, { s with rest := ws })
    | [] => (0, s)

end CyclicWords

/-- The words of the list. -/
instance : WordSource CyclicWords where
  next := CyclicWords.next

end ProxyFeed
