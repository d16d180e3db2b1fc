import ProxyFeed.Link.ShortId
import ProxyFeed.Text.RoundTrip

/-!
# Texts that are short ids

## What is here

* `ShortId.IsShortId` — 8 to 16 hexadecimal digits in lower case, an even number of them.
* `ShortId.isShortId_of_ofText?` and `ShortId.isShortId_of_first?` — whatever the readers find is
  one.
-/

set_option autoImplicit false
namespace ProxyFeed
namespace ShortId

/-- A hexadecimal digit in lower case. -/
def IsLowerHex (c : Char) : Prop := ('0' ≤ c ∧ c ≤ '9') ∨ ('a' ≤ c ∧ c ≤ 'f')

instance (c : Char) : Decidable (IsLowerHex c) := instDecidableOr

/-- A short id: 8 to 16 digits, an even number of them. -/
structure IsShortId (s : String) : Prop where
  digits : ∀ c ∈ s.toList, IsLowerHex c
  eight_le : 8 ≤ s.length
  le_sixteen : s.length ≤ 16
  even : s.length % 2 = 0

theorem toNat_lt_of_isHexDigit {c : Char} (h : isHexDigit c = true) : c.toNat < 128 := by
  simp only [isHexDigit, Bool.or_eq_true, Bool.and_eq_true, decide_eq_true_eq] at h
  rcases h with (⟨-, high⟩ | ⟨-, high⟩) | ⟨-, high⟩
  · exact Nat.lt_of_le_of_lt (show c.toNat ≤ 0x39 from high) (by decide)
  · exact Nat.lt_of_le_of_lt (show c.toNat ≤ 0x66 from high) (by decide)
  · exact Nat.lt_of_le_of_lt (show c.toNat ≤ 0x46 from high) (by decide)

theorem isLowerHex_toLower_ofNat : ∀ n < 128, isHexDigit (Char.ofNat n) = true →
    IsLowerHex (Char.ofNat n).toLower := by
  decide +kernel

theorem isLowerHex_toLower {c : Char} (h : isHexDigit c = true) : IsLowerHex c.toLower := by
  have lower := isLowerHex_toLower_ofNat c.toNat (toNat_lt_of_isHexDigit h)
  rw [Char.ofNat_toNat] at lower
  exact lower h

/-- Each of the digits takes one byte. -/
theorem length_encode {cs : List Char} (h : ∀ c ∈ cs, isHexDigit c = true) :
    (Utf8.encode cs).length = cs.length := by
  induction cs with
  | nil => rfl
  | cons c cs ih =>
    obtain ⟨first, rest⟩ := List.forall_mem_cons.1 h
    have one := Percent.utf8EncodeChar_ascii c.toNat (toNat_lt_of_isHexDigit first)
    rw [Char.ofNat_toNat] at one
    rw [Utf8.encode, List.flatMap_cons, one, ← Utf8.encode, List.length_append, ih rest,
      List.length_singleton, List.length_cons, Nat.add_comm]

/-- The length of a valid text can as well be counted in characters. -/
theorem isValid_iff {cs : List Char} : isValid cs = true ↔
    (∀ c ∈ cs, isHexDigit c = true) ∧ 8 ≤ cs.length ∧ cs.length ≤ 16 ∧ cs.length % 2 = 0 := by
  simp only [isValid, Bool.and_eq_true, decide_eq_true_eq, List.all_eq_true]
  constructor
  · rintro ⟨⟨⟨eight_le, le_sixteen⟩, even⟩, digits⟩
    rw [length_encode digits] at eight_le le_sixteen even
    exact ⟨digits, eight_le, le_sixteen, even⟩
  · rintro ⟨digits, eight_le, le_sixteen, even⟩
    rw [length_encode digits]
    exact ⟨⟨⟨eight_le, le_sixteen⟩, even⟩, digits⟩

theorem isShortId_of_isValid {cs : List Char} (h : isValid cs = true) :
    IsShortId (String.ofList (cs.map Char.toLower)) := by
  obtain ⟨digits, eight_le, le_sixteen, even⟩ := isValid_iff.1 h
  constructor
  · rw [String.toList_ofList, List.forall_mem_map]
    exact fun c hc => isLowerHex_toLower (digits c hc)
  all_goals rwa [String.length_ofList, List.length_map]

/-- **The short id that a text names is one.** -/
theorem isShortId_of_ofText? {s id : String} (h : ofText? s = some id) : IsShortId id := by
  rw [ofText?] at h
  split at h
  · next valid =>
    obtain rfl := Option.some.inj h
    exact isShortId_of_isValid valid
  · cases h

theorem isShortId_of_first? {values : List Json} {id : String} (h : first? values = some id) :
    IsShortId id := by
  have there := List.mem_of_mem_head? h
  rw [normalize, List.mem_eraseDups, List.mem_filterMap] at there
  obtain ⟨v, -, named⟩ := there
  obtain ⟨s, -, text⟩ := Option.bind_eq_some_iff.1 named
  exact isShortId_of_ofText? text

end ShortId
end ProxyFeed
