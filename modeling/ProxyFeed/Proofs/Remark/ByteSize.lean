import ProxyFeed.Remark.ByteSize
import ProxyFeed.Proofs.Number.Rounding
import ProxyFeed.Proofs.Json.WrittenNumber
import Mathlib.Algebra.Order.Field.Rat
import Mathlib.Tactic.Linarith
import Mathlib.Tactic.NormNum
import Mathlib.Tactic.FieldSimp

/-!
# Reading displayed sizes

A displayed size is read as a number of a unit, exactly.  However many roundings went into it, it
grows with the number of bytes, and it is close to it.

## What is here

* `NumberText.rational` — the number that a number as written stands for, exactly.
* `ByteSize.read?` — the number and the unit of a displayed size.
* `ByteSize.shown` — what a number of bytes is displayed as; `ByteSize.read?_text`.
* `ByteSize.shownTenths_mono` — displayed sizes keep the order, within a unit and from one unit to
  the next.
* `ByteSize.size_shown_near` — how far a displayed size is off.
* `ByteSize.text_grows_and_is_near` — both, said of the texts.
-/

set_option autoImplicit false
namespace ProxyFeed

namespace NumberText

/-- The power of ten that an exponent stands for. -/
def power : Option (Bool × List Char) → ℚ
  | none => 1
  | some (negative, ds) => if negative then 1 / 10 ^ digitsValue ds else 10 ^ digitsValue ds

/-- The number that a number as written stands for, exactly. -/
def rational (t : NumberText) : ℚ :=
  let fraction := t.fraction.getD []
  let magnitude := digitsValue (t.whole ++ fraction) / 10 ^ fraction.length * power t.exponent
  if t.negative then -magnitude else magnitude

theorem rational_int (n : ℤ) :
    rational ⟨decide (n < 0), Nat.toDigits 10 n.natAbs, none, none⟩ = n := by
  have value : rational ⟨decide (n < 0), Nat.toDigits 10 n.natAbs, none, none⟩ =
      if n < 0 then -(n.natAbs : ℚ) else n.natAbs := by
    simp [rational, power, digitsValue_toDigits]
  rw [value, Nat.cast_natAbs]
  split
  · next negative => rw [abs_of_neg negative, Int.cast_neg, neg_neg]
  · next nonneg => rw [abs_of_nonneg (not_lt.1 nonneg)]

theorem digitsValue_append_singleton (ds : List Char) (d : Char) :
    digitsValue (ds ++ [d]) = digitsValue ds * 10 + digitsValue [d] := by
  simp [digitsValue]

/-- One digit after the point counts tenths. -/
theorem rational_tenths (t : Nat) :
    rational ⟨false, Nat.toDigits 10 (t / 10), some (Nat.toDigits 10 (t % 10)), none⟩ =
      (t : ℚ) / 10 := by
  have digit : Nat.toDigits 10 (t % 10) = [Nat.digitChar (t % 10)] :=
    Nat.toDigits_of_lt_base (Nat.mod_lt t (by decide))
  have value : digitsValue (Nat.toDigits 10 (t / 10) ++ Nat.toDigits 10 (t % 10)) = t := by
    rw [digit, digitsValue_append_singleton, ← digit, digitsValue_toDigits, digitsValue_toDigits]
    omega
  simp only [rational, Option.getD_some, value, power]
  simp [digit]

end NumberText

namespace ByteSize

/-! ## Reading -/

/-- A displayed size: a number of a unit, which is a number of bytes. -/
structure Reading where
  number : ℚ
  unit : Nat

/-- The bytes that a displayed size comes to. -/
def Reading.size (r : Reading) : ℚ := r.number * r.unit

/-- The units by name. -/
def units : List (String × Nat) :=
  [("B", 1), ("KB", Nat.pow 2 10), ("MB", Nat.pow 2 20), ("GB", Nat.pow 2 30)]

/-- The unit with a name. -/
def unit? (name : String) : Option Nat := (units.find? (·.1 = name)).map (·.2)

/-- Reads a displayed size: the characters of a number, and the name of a unit. -/
def read? (s : String) : Option Reading := do
  let number ← NumberText.parse? (s.toList.takeWhile Json.Scanner.isNumberChar)
  let unit ← unit? (String.ofList (s.toList.dropWhile Json.Scanner.isNumberChar))
  return ⟨number.rational, unit⟩

/-- **A written number and the name of a unit are read as they are.** -/
theorem read?_append {t : NumberText} (formed : t.WellFormed) {number name : String}
    (written : number.toList = t.chars) {unit : Nat} (known : (name, unit) ∈ units) :
    read? (number ++ name) = some ⟨t.rational, unit⟩ := by
  have number_chars : ∀ c ∈ t.chars, Json.Scanner.isNumberChar c = true := by
    obtain ⟨d, ds, chars, first, rest⟩ := formed.chars_eq_cons
    rw [chars, List.forall_mem_cons]
    refine ⟨?_, rest⟩
    rcases first with rfl | digit
    · rfl
    · simp [Json.Scanner.isNumberChar, digit]
  have unit_chars : name.toList.takeWhile Json.Scanner.isNumberChar = [] ∧
      name.toList.dropWhile Json.Scanner.isNumberChar = name.toList ∧
      unit? name = some unit := by
    simp only [units, List.mem_cons, Prod.mk.injEq, List.not_mem_nil, or_false] at known
    rcases known with ⟨rfl, rfl⟩ | ⟨rfl, rfl⟩ | ⟨rfl, rfl⟩ | ⟨rfl, rfl⟩ <;> decide
  obtain ⟨none, all, found⟩ := unit_chars
  rw [read?, String.toList_append, written, List.takeWhile_append_of_pos number_chars,
    List.dropWhile_append_of_pos number_chars, none, all, List.append_nil,
    NumberText.parse?_chars formed, String.ofList_toList, found]
  rfl

/-! ## What is displayed -/

/-- The unit for a number of bytes that is not displayed as it is. -/
def unitFor (n : Nat) : Nat := if n < mega then kilo else if n < giga then mega else giga

/-- What a number of bytes is displayed as. -/
def shown (bytes : Int64) : Reading :=
  let n := bytes.toInt.toNat
  if bytes.toInt < kilo then ⟨bytes.toInt, 1⟩ else ⟨tenths n (unitFor n) / 10, unitFor n⟩

theorem tenthsText_eq (t : Nat) : (tenthsText t).toList =
    NumberText.chars ⟨false, Nat.toDigits 10 (t / 10), some (Nat.toDigits 10 (t % 10)), none⟩ := by
  simp [tenthsText, NumberText.chars, NumberText.fractionChars, NumberText.exponentChars]

theorem read?_tenths (t : Nat) {name : String} {unit : Nat} (known : (name, unit) ∈ units) :
    read? (tenthsText t ++ name) = some ⟨t / 10, unit⟩ := by
  have formed := Decimal.wellFormed_of_point false (NumberText.areDigits_toDigits (t / 10))
    (fun first => by rw [NumberText.eq_zero_of_head?_toDigits first]; rfl)
    (NumberText.areDigits_toDigits (t % 10))
  rw [read?_append formed (tenthsText_eq t) known, NumberText.rational_tenths]

/-- **What is displayed is read back.** -/
theorem read?_text (bytes : Int64) : read? (text bytes) = some (shown bytes) := by
  rw [text, shown]
  split
  · next small =>
    have written : (toString bytes.toInt).toList = NumberText.chars
        ⟨decide (bytes.toInt < 0), Nat.toDigits 10 bytes.toInt.natAbs, none, none⟩ :=
      Json.Number.text_int_eq_chars bytes.toInt
    have known : ("B", 1) ∈ units := by decide
    rw [read?_append (NumberText.wellFormed_toDigits _ _) written known, NumberText.rational_int]
  · rw [unitFor]
    split
    · exact read?_tenths _ (by decide)
    · split
      · exact read?_tenths _ (by decide)
      · exact read?_tenths _ (by decide)

/-! ## The order of displayed sizes -/

variable {m n : Nat}

/-- What is displayed of a number of bytes, in tenths of a byte. -/
def shownTenths (n : Nat) : Nat := tenths n (unitFor n) * unitFor n

/-- In one unit, more bytes are not displayed as less. -/
theorem tenths_mono (unit : Nat) (h : m ≤ n) : tenths m unit ≤ tenths n unit :=
  Rounding.halfEven_mono (Nat.mul_le_mul_left 10 (Rounding.significant53_mono h))

/-- Where the unit changes, the smaller one still comes to the same. -/
theorem tenths_mega : tenths mega kilo * kilo = tenths mega mega * mega := by decide +kernel

theorem tenths_giga : tenths giga mega * mega = tenths giga giga * giga := by decide +kernel

/-- The order is kept from one unit to another if both come to the same somewhere between. -/
theorem tenths_mul_le {unit unit' seam : Nat} (below : m ≤ seam) (above : seam ≤ n)
    (agree : tenths seam unit * unit = tenths seam unit' * unit') :
    tenths m unit * unit ≤ tenths n unit' * unit' :=
  calc tenths m unit * unit ≤ tenths seam unit * unit :=
        Nat.mul_le_mul_right unit (tenths_mono unit below)
    _ = tenths seam unit' * unit' := agree
    _ ≤ tenths n unit' * unit' := Nat.mul_le_mul_right unit' (tenths_mono unit' above)

/-- **More bytes are not displayed as less.** -/
theorem shownTenths_mono (h : m ≤ n) : shownTenths m ≤ shownTenths n := by
  have seams : mega ≤ giga := by decide
  have same_unit (unit : Nat) : tenths m unit * unit ≤ tenths n unit * unit :=
    Nat.mul_le_mul_right unit (tenths_mono unit h)
  rw [shownTenths, shownTenths, unitFor, unitFor]
  split_ifs with m_mega n_mega n_giga m_giga n_mega n_giga n_mega n_giga
  · exact same_unit kilo
  · exact tenths_mul_le m_mega.le (not_lt.1 n_mega) tenths_mega
  · -- from KB to GB by way of MB
    exact (tenths_mul_le m_mega.le seams tenths_mega).trans
      (tenths_mul_le le_rfl (not_lt.1 n_giga) tenths_giga)
  · omega
  · exact same_unit mega
  · exact tenths_mul_le m_giga.le (not_lt.1 n_giga) tenths_giga
  · omega
  · omega
  · exact same_unit giga

theorem size_shown_of_lt {bytes : Int64} (h : bytes.toInt < kilo) :
    (shown bytes).size = bytes.toInt := by
  rw [shown, if_pos h, Reading.size, Nat.cast_one, mul_one]

theorem size_shown_of_le {bytes : Int64} (h : kilo ≤ bytes.toInt) :
    (shown bytes).size = shownTenths bytes.toInt.toNat / 10 := by
  rw [shown, if_neg (not_lt.2 h), Reading.size, shownTenths, Nat.cast_mul, div_mul_eq_mul_div]

/-- **Displayed sizes keep the order**, across the units as well. -/
theorem size_shown_mono {a b : Int64} (h : a ≤ b) : (shown a).size ≤ (shown b).size := by
  have h : a.toInt ≤ b.toInt := Int64.le_iff_toInt_le.1 h
  rcases lt_or_ge a.toInt kilo with a_lt | a_ge
  · rw [size_shown_of_lt a_lt]
    rcases lt_or_ge b.toInt kilo with b_lt | b_ge
    · rw [size_shown_of_lt b_lt]
      exact Int.cast_le.2 h
    · -- the least size displayed in a unit is that of a whole KB
      have least : shownTenths kilo ≤ shownTenths b.toInt.toNat := shownTenths_mono (by omega)
      have whole : shownTenths kilo = 10 * kilo := by decide +kernel
      have least : (10 * kilo : ℚ) ≤ shownTenths b.toInt.toNat := by
        rw [whole] at least
        exact_mod_cast least
      have a_lt : (a.toInt : ℚ) < kilo := by exact_mod_cast a_lt
      rw [size_shown_of_le b_ge]
      linarith
  · rw [size_shown_of_le a_ge, size_shown_of_le (a_ge.trans h)]
    have le := shownTenths_mono (Int.toNat_le_toNat h)
    have le : (shownTenths a.toInt.toNat : ℚ) ≤ shownTenths b.toInt.toNat := by exact_mod_cast le
    linarith

/-! ## How near displayed sizes are -/

theorem unitFor_pos (n : Nat) : 0 < unitFor n := by
  rw [unitFor]
  split_ifs <;> decide

theorem shownTenths_near (h : n ≤ Nat.pow 2 53) :
    2 * shownTenths n ≤ 2 * (10 * n) + unitFor n ∧
      2 * (10 * n) ≤ 2 * shownTenths n + unitFor n := by
  rw [shownTenths, tenths, Rounding.significant53_eq_self h]
  exact Rounding.halfEven_near (unitFor_pos n) (10 * n)

/-- **A displayed size is off by a twentieth of its unit at most**, as long as the number of bytes
itself is not rounded. -/
theorem size_shown_near {bytes : Int64} (low : kilo ≤ bytes.toInt)
    (high : bytes.toInt ≤ Nat.pow 2 53) :
    |(shown bytes).size - bytes.toInt| ≤ (shown bytes).unit / 20 := by
  have unit : (shown bytes).unit = unitFor bytes.toInt.toNat := by
    rw [shown, if_neg (not_lt.2 low)]
  have number : ((bytes.toInt.toNat : ℤ) : ℚ) = bytes.toInt := by
    rw [Int.toNat_of_nonneg (le_trans (by decide) low)]
  rw [size_shown_of_le low, unit, ← number, Int.cast_natCast]
  have near := shownTenths_near (Int.toNat_le.2 high)
  generalize bytes.toInt.toNat = n at *
  have upper : (2 * shownTenths n : ℚ) ≤ 2 * (10 * n) + unitFor n := by exact_mod_cast near.1
  have lower : (2 * (10 * n) : ℚ) ≤ 2 * shownTenths n + unitFor n := by exact_mod_cast near.2
  rw [abs_le]
  constructor <;> linarith

/-- **The texts of sizes grow with the number of bytes, and are near it.**  Each is read as a number
of a unit, and of two numbers of bytes the greater one is not read as less.  Below 1024 the size
read is exact; from there to `2 ^ 53` it is off by a twentieth of the unit at most. -/
theorem text_grows_and_is_near :
    (∀ a b : Int64, a ≤ b →
      ∃ r s, read? (text a) = some r ∧ read? (text b) = some s ∧ r.size ≤ s.size) ∧
    (∀ n : Int64, n.toInt < 1024 → ∃ r, read? (text n) = some r ∧ r.size = n.toInt) ∧
    (∀ n : Int64, 1024 ≤ n.toInt → n.toInt ≤ Nat.pow 2 53 →
      ∃ r, read? (text n) = some r ∧ |r.size - n.toInt| ≤ r.unit / 20) :=
  ⟨fun a b h => ⟨shown a, shown b, read?_text a, read?_text b, size_shown_mono h⟩,
    fun n h => ⟨shown n, read?_text n, size_shown_of_lt h⟩,
    fun n low high => ⟨shown n, read?_text n, size_shown_near low high⟩⟩

/-- Around the change from KB to MB, where rounding reaches 1024.0; a negative number; and the
greatest number that binary64 is sure to hold exactly. -/
theorem text_grows_to_next_unit :
    (text 1048575 = "1024.0KB" ∧ text 1048576 = "1.0MB" ∧ (1048575 : Int64) ≤ 1048576 ∧
      ∃ r s, read? (text 1048575) = some r ∧ read? (text 1048576) = some s ∧ r.size ≤ s.size) ∧
    ((-10 : Int64).toInt < 1024 ∧
      ∃ r, read? (text (-10)) = some r ∧ r.size = (-10 : Int64).toInt) ∧
    (1024 ≤ (9007199254740992 : Int64).toInt ∧
      (9007199254740992 : Int64).toInt ≤ Nat.pow 2 53 ∧
      ∃ r, read? (text 9007199254740992) = some r ∧
        |r.size - (9007199254740992 : Int64).toInt| ≤ r.unit / 20) :=
  ⟨⟨by decide +kernel, by decide +kernel, by decide,
      text_grows_and_is_near.1 1048575 1048576 (by decide)⟩,
    ⟨by decide, text_grows_and_is_near.2.1 (-10) (by decide)⟩,
    ⟨by decide, by decide,
      text_grows_and_is_near.2.2 9007199254740992 (by decide) (by decide)⟩⟩

end ByteSize
end ProxyFeed
