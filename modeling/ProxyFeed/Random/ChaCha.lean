/-!
# ChaCha with twelve rounds

A keystream of 32-bit words: the key, a block counter and a zero nonce are mixed into blocks of
sixteen words, which are handed out in order.

## What is here

* `ChaCha.block` — the sixteen words of one block.
* `ChaCha` — a position in the keystream; `ChaCha.next` hands out one word.
* `ChaCha.ofSeed` — the keystream of a 64-bit seed, whose key comes from a congruential generator.
-/

set_option autoImplicit false
namespace ProxyFeed
namespace ChaCha

/-- Sixteen words. -/
abbrev Block := Vector UInt32 16

/-- A word rotated to the left. -/
def rotateLeft (x : UInt32) (n : UInt32) : UInt32 := (x <<< n) ||| (x >>> (32 - n))

/-- The quarter round on four places of a block. -/
def quarterRound (v : Block) (a b c d : Fin 16) : Block :=
  let v := v.set a (v[a] + v[b])
  let v := v.set d (rotateLeft (v[d] ^^^ v[a]) 16)
  let v := v.set c (v[c] + v[d])
  let v := v.set b (rotateLeft (v[b] ^^^ v[c]) 12)
  let v := v.set a (v[a] + v[b])
  let v := v.set d (rotateLeft (v[d] ^^^ v[a]) 8)
  let v := v.set c (v[c] + v[d])
  v.set b (rotateLeft (v[b] ^^^ v[c]) 7)

/-- A round on the columns and one on the diagonals. -/
def doubleRound (v : Block) : Block :=
  let v := quarterRound v 0 4 8 12
  let v := quarterRound v 1 5 9 13
  let v := quarterRound v 2 6 10 14
  let v := quarterRound v 3 7 11 15
  let v := quarterRound v 0 5 10 15
  let v := quarterRound v 1 6 11 12
  let v := quarterRound v 2 7 8 13
  quarterRound v 3 4 9 14

/-- The words mixed for a block: constants, key, counter in two words, nonce. -/
def input (key : Vector UInt32 8) (counter : UInt64) : Block :=
  #v[0x61707865, 0x3320646e, 0x79622d32, 0x6b206574,
    key[0], key[1], key[2], key[3], key[4], key[5], key[6], key[7],
    counter.toUInt32, (counter >>> 32).toUInt32, 0, 0]

/-- The words of one block: twelve rounds, and the input added to the result. -/
def block (key : Vector UInt32 8) (counter : UInt64) : Block :=
  let v := input key counter
  let mixed := doubleRound (doubleRound (doubleRound (doubleRound (doubleRound (doubleRound v)))))
  mixed.zipWith (· + ·) v

end ChaCha

/-- A position in a keystream: the words of the current block not yet handed out, and the counter of
the next block. -/
structure ChaCha where
  key : Vector UInt32 8
  counter : UInt64
  pending : List UInt32

namespace ChaCha

/-- The next word. -/
def next (s : ChaCha) : UInt32 × ChaCha :=
  match s.pending with
  | w :: ws => (w, { s with pending := ws })
  | [] =>
    let b := block s.key s.counter
    (b[0], { s with counter := s.counter + 1, pending := b.toList.drop 1 })

/-- One step of the congruential generator that stretches a seed. -/
def stepSeed (s : UInt64) : UInt64 := s * 6364136223846793005 + 11634580027462260723

/-- The word of key given by a state of that generator: the high bits, rotated by the highest. -/
def seedWord (s : UInt64) : UInt32 :=
  let x := (((s >>> 18) ^^^ s) >>> 27).toUInt32
  let r := (s >>> 59).toUInt32
  (x >>> r) ||| (x <<< ((32 - r) % 32))

/-- The key made from a seed. -/
def seedKey (seed : UInt64) : Vector UInt32 8 :=
  let s1 := stepSeed seed
  let s2 := stepSeed s1
  let s3 := stepSeed s2
  let s4 := stepSeed s3
  let s5 := stepSeed s4
  let s6 := stepSeed s5
  let s7 := stepSeed s6
  let s8 := stepSeed s7
  #v[s1, s2, s3, s4, s5, s6, s7, s8].map seedWord

/-- The start of the keystream of a seed. -/
def ofSeed (seed : UInt64) : ChaCha := ⟨seedKey seed, 0, []⟩

end ChaCha
end ProxyFeed
