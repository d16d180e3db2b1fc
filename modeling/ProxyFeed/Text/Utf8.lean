/-!
# UTF-8

Texts are lists of characters and network data are lists of bytes; this file goes between the two.

## What is here

* `Utf8.encode` — the bytes of a text.
* `Utf8.scan` — bytes cut into characters and maximal invalid parts.  Both decoders are read off
  this one scan.
* `Utf8.decode?` — strict decoding; `Utf8.decodeLossy` — every invalid part becomes U+FFFD.
* `Utf8.fault?` — where strict decoding fails.

A character of several bytes is followed through a state that says how many continuation bytes are
still owed and in which range the next one must lie; the range is what rules out overlong forms,
surrogates and numbers above U+10FFFF.
-/

set_option autoImplicit false
namespace ProxyFeed
namespace Utf8

/-- The bytes of a text. -/
def encode (cs : List Char) : List UInt8 := cs.flatMap String.utf8EncodeChar

/-- A character begun but not complete: its bits so far, the continuation bytes owed, and the range
of the next one. -/
structure Pending where
  bits : Nat
  owed : Nat
  low : UInt8
  high : UInt8
deriving DecidableEq, Repr

/-- What the first byte of a character says. -/
inductive Lead where
  /-- It is a character by itself. -/
  | whole (c : Char)
  /-- It owes continuation bytes. -/
  | begun (p : Pending)
  /-- No character starts with it. -/
  | invalid
deriving DecidableEq, Repr

/-- Reads the first byte of a character. -/
def lead (b : UInt8) : Lead :=
  if b < 0x80 then .whole (Char.ofNat b.toNat)
  else if b < 0xC2 then .invalid
  else if b < 0xE0 then .begun ⟨b.toNat - 0xC0, 1, 0x80, 0xBF⟩
  else if b < 0xF0 then
    .begun ⟨b.toNat - 0xE0, 2, if b = 0xE0 then 0xA0 else 0x80, if b = 0xED then 0x9F else 0xBF⟩
  else if b < 0xF5 then
    .begun ⟨b.toNat - 0xF0, 3, if b = 0xF0 then 0x90 else 0x80, if b = 0xF4 then 0x8F else 0xBF⟩
  else .invalid

/-- Adds a continuation byte; nothing when the byte is not one that may come here. -/
def Pending.push (p : Pending) (b : UInt8) : Option (Char ⊕ Pending) :=
  if p.low ≤ b ∧ b ≤ p.high then
    let bits := p.bits * 64 + (b.toNat - 0x80)
    if p.owed ≤ 1 then some (.inl (Char.ofNat bits)) else some (.inr ⟨bits, p.owed - 1, 0x80, 0xBF⟩)
  else none

/-- Cuts bytes into characters, `none` standing for a maximal invalid part. -/
def scan : Option Pending → List UInt8 → List (Option Char)
  | none, [] => []
  | some _, [] => [none]
  | none, b :: bs =>
    match lead b with
    | .whole c => some c :: scan none bs
    | .begun p => scan (some p) bs
    | .invalid => none :: scan none bs
  | some p, b :: bs =>
    match p.push b with
    | some (.inl c) => some c :: scan none bs
    | some (.inr q) => scan (some q) bs
    | none =>
      none ::
        match lead b with
        | .whole c => some c :: scan none bs
        | .begun q => scan (some q) bs
        | .invalid => none :: scan none bs

/-- The text of well-formed bytes. -/
def decode? (bs : List UInt8) : Option (List Char) := (scan none bs).mapM id

/-- The text of any bytes, with U+FFFD for each maximal invalid part. -/
def decodeLossy (bs : List UInt8) : List Char := (scan none bs).map (·.getD '\uFFFD')

/-- Where bytes stop being UTF-8. -/
structure Fault where
  /-- The bytes before the first invalid part. -/
  index : Nat
  /-- The length of that part; nothing when the bytes end within a character. -/
  length? : Option Nat
deriving DecidableEq, Repr

/-- The length of an invalid part of which `count` bytes have been read. -/
def faultLength? (p : Pending) (count : Nat) : List UInt8 → Option Nat
  | [] => none
  | b :: bs =>
    match p.push b with
    | some (.inr q) => faultLength? q (count + 1) bs
    | _ => some count

/-- The first invalid part of bytes, if there is one. -/
def fault? (bs : List UInt8) : Option Fault :=
  let valid := ((scan none bs).takeWhile (·.isSome)).filterMap id
  let index := (encode valid).length
  match bs.drop index with
  | [] => none
  | b :: rest =>
    match lead b with
    | .begun p => some ⟨index, faultLength? p 1 rest⟩
    | _ => some ⟨index, some 1⟩

/-- The message of a fault. -/
def Fault.message (f : Fault) : String :=
  match f.length? with
  | some n =>
    "invalid utf-8 sequence of " ++ toString n ++ " bytes from index " ++ toString f.index
  | none => "incomplete utf-8 byte sequence from index " ++ toString f.index

end Utf8

/-- The UTF-8 bytes of a string. -/
def utf8 (s : String) : List UInt8 := Utf8.encode s.toList

end ProxyFeed
