import ProxyFeed.Json.Token
import Mathlib.Data.List.TakeWhile

/-!
# Written numbers

A number as written is cut into a sign, digits and an exponent.  Put together again the parts give
its characters, and the characters of parts that obey the grammar are cut into the same parts.
Every number is written by the grammar, so it is at least read as a number; integers of 64 bits are
read as the number they were.

## What is here

* `NumberText.chars` — the characters of the parts of a number; `NumberText.parse?_chars` says that
  cutting undoes it where `NumberText.WellFormed` holds.
* `Json.Number.exists_text_eq_chars` — every number is written by the grammar, floats included.
* `Json.Number.reread?` — the number that a written number is read as.
* `Json.Number.Fits` — integers of 64 bits, signed or unsigned; `Json.Number.reread?_of_fits`.
-/

set_option autoImplicit false
namespace ProxyFeed

namespace NumberText

/-! ## Digits -/

theorem isDigit_of_mem_toDigits {n : Nat} {c : Char} (h : c ∈ Nat.toDigits 10 n) :
    isDigit c = true := by
  have h := Nat.isDigit_of_mem_toDigits (by decide) (by decide) h
  simpa [Char.isDigit, isDigit, Char.le_def, and_comm] using h

/-- Only zero is written with a zero in front. -/
theorem eq_zero_of_head?_toDigits {n : Nat} (h : (Nat.toDigits 10 n).head? = some '0') : n = 0 := by
  induction n using Nat.strongRecOn with
  | ind n ih =>
    rw [Nat.toDigits_eq_if (by decide)] at h
    split at h
    · simpa using h
    · next hn =>
      have hd : (Nat.toDigits 10 (n / 10)).head? = some '0' := by
        cases he : Nat.toDigits 10 (n / 10) with
        | nil => exact absurd he Nat.toDigits_ne_nil
        | cons d ds => simpa [he] using h
      have := ih (n / 10) (by omega) hd
      omega

/-- The digits of a number: there are some, and no zero too many. -/
theorem exists_toDigits_eq_cons (n : Nat) : ∃ d ds, Nat.toDigits 10 n = d :: ds ∧
    (∀ c ∈ d :: ds, isDigit c = true) ∧ (d = '0' → ds = []) := by
  obtain ⟨d, ds, e⟩ := List.exists_cons_of_ne_nil (Nat.toDigits_ne_nil (n := n) (b := 10))
  refine ⟨d, ds, e, fun c hc => isDigit_of_mem_toDigits (e ▸ hc), ?_⟩
  rintro rfl
  have h0 := eq_zero_of_head?_toDigits (n := n) (by rw [e]; rfl)
  rw [h0] at e
  exact (List.cons.inj e).2.symm

/-- Decimal digits, at least one. -/
def AreDigits (ds : List Char) : Prop := ds ≠ [] ∧ ∀ c ∈ ds, isDigit c = true

theorem areDigits_toDigits (n : Nat) : AreDigits (Nat.toDigits 10 n) :=
  ⟨Nat.toDigits_ne_nil, fun _ => isDigit_of_mem_toDigits⟩

theorem areDigits_cons {d : Char} {ds : List Char} :
    AreDigits (d :: ds) ↔ isDigit d = true ∧ ∀ c ∈ ds, isDigit c = true := by
  rw [AreDigits, List.forall_mem_cons]
  exact and_iff_right (List.cons_ne_nil d ds)

/-- Digits are cut off in front of a character that is none. -/
theorem takeWhile_digits {ds rest : List Char} (digits : ∀ c ∈ ds, isDigit c = true)
    (stop : ∀ c ∈ rest.head?, isDigit c = false) :
    (ds ++ rest).takeWhile isDigit = ds ∧ (ds ++ rest).dropWhile isDigit = rest := by
  rw [List.takeWhile_append_of_pos digits, List.dropWhile_append_of_pos digits]
  cases rest with
  | nil => simp
  | cons c rest =>
    have none := stop c rfl
    simp [none]

/-! ## The grammar -/

/-- The characters of a fraction. -/
def fractionChars : Option (List Char) → List Char
  | none => []
  | some ds => '.' :: ds

/-- The characters of an exponent, with its sign. -/
def exponentChars : Option (Bool × List Char) → List Char
  | none => []
  | some (negative, ds) => 'e' :: (if negative then '-' else '+') :: ds

/-- The characters of a number, given by its parts. -/
def chars (t : NumberText) : List Char :=
  (if t.negative then ['-'] else []) ++
    (t.whole ++ (fractionChars t.fraction ++ exponentChars t.exponent))

/-- Parts that obey the grammar of numbers. -/
structure WellFormed (t : NumberText) : Prop where
  whole : AreDigits t.whole
  zero : t.whole.head? = some '0' → t.whole.length = 1
  fraction : ∀ ds ∈ t.fraction, AreDigits ds
  exponent : ∀ e ∈ t.exponent, AreDigits e.2

theorem exponent?_exponentChars {e : Option (Bool × List Char)} (h : ∀ x ∈ e, AreDigits x.2) :
    exponent? (exponentChars e) = some e := by
  cases e with
  | none => rfl
  | some e =>
    obtain ⟨negative, ds⟩ := e
    obtain ⟨some_digit, digits⟩ := h (negative, ds) rfl
    have all : ds.all isDigit = true := List.all_eq_true.2 digits
    cases negative <;> simp [exponentChars, exponent?, some_digit, all]

theorem head?_exponentChars {e : Option (Bool × List Char)} {c : Char}
    (h : c ∈ (exponentChars e).head?) : isDigit c = false ∧ c ≠ '.' := by
  cases e with
  | none => cases h
  | some e =>
    obtain rfl : 'e' = c := Option.some.inj h
    decide

/-- Reads what follows the digits before the point. -/
def afterWhole? (negative : Bool) (whole : List Char) : List Char → Option NumberText
  | '.' :: r =>
    (exponent? (r.dropWhile isDigit)).bind fun e =>
      if r.takeWhile isDigit = [] then none
      else some ⟨negative, whole, some (r.takeWhile isDigit), e⟩
  | r => (exponent? r).bind fun e => some ⟨negative, whole, none, e⟩

theorem parse?_of_cut {cs whole rest : List Char} (negative : Bool) (unsigned : cs.head? ≠ some '-')
    (cut : cs.takeWhile isDigit = whole ∧ cs.dropWhile isDigit = rest)
    (ok : ¬(whole = [] ∨ whole.head? = some '0' ∧ whole.length ≠ 1)) :
    parse? ((if negative then ['-'] else []) ++ cs) = afterWhole? negative whole rest := by
  obtain ⟨rfl, rfl⟩ := cut
  have signed : parse? ((if negative then ['-'] else []) ++ cs) =
      if cs.takeWhile isDigit = [] ∨
        (cs.takeWhile isDigit).head? = some '0' ∧ (cs.takeWhile isDigit).length ≠ 1 then none
      else afterWhole? negative (cs.takeWhile isDigit) (cs.dropWhile isDigit) := by
    cases negative with
    | true => rfl
    | false =>
      have other : ∀ r, cs = '-' :: r → False := by
        rintro r rfl
        exact unsigned rfl
      rw [if_neg Bool.false_ne_true, List.nil_append, parse?]
      · rfl
      · exact other
  rw [signed, if_neg ok]

/-- **The characters of well-formed parts are cut into these parts.** -/
theorem parse?_chars {t : NumberText} (h : t.WellFormed) : parse? t.chars = some t := by
  obtain ⟨negative, whole, fraction, exponent⟩ := t
  obtain ⟨⟨some_digit, digits⟩, zero, fraction_digits, exponent_digits⟩ := h
  simp only at *
  have unsigned (rest : List Char) : (whole ++ rest).head? ≠ some '-' := by
    obtain ⟨d, ds, rfl⟩ := List.exists_cons_of_ne_nil some_digit
    rintro ⟨⟩
    exact absurd (digits '-' List.mem_cons_self) (by decide)
  have ok : ¬(whole = [] ∨ whole.head? = some '0' ∧ whole.length ≠ 1) := by
    rintro (none | ⟨first, more⟩)
    · exact some_digit none
    · exact more (zero first)
  have stop (c : Char) (hc : c ∈ (exponentChars exponent).head?) := head?_exponentChars hc
  have read_exponent := exponent?_exponentChars exponent_digits
  rw [chars]
  cases fraction with
  | none =>
    rw [fractionChars, List.nil_append, parse?_of_cut negative (unsigned _)
      (takeWhile_digits digits fun c hc => (stop c hc).1) ok, afterWhole?, read_exponent,
      Option.bind_some]
    exact fun r same => absurd rfl (stop '.' (by rw [same]; rfl)).2
  | some fs =>
    obtain ⟨some_fraction, fraction_digits⟩ := fraction_digits fs rfl
    have cut := takeWhile_digits fraction_digits fun c hc => (stop c hc).1
    have point : ∀ c ∈ ('.' :: (fs ++ exponentChars exponent)).head?, isDigit c = false := by
      rintro c ⟨⟩
      rfl
    rw [fractionChars, List.cons_append,
      parse?_of_cut negative (unsigned _) (takeWhile_digits digits point) ok]
    simp only [afterWhole?, cut.1, cut.2, read_exponent, Option.bind_some, if_neg some_fraction]

/-- A written number begins with a sign or a digit, and holds nothing but the characters of
numbers. -/
theorem WellFormed.chars_eq_cons {t : NumberText} (h : t.WellFormed) : ∃ d ds, t.chars = d :: ds ∧
    (d = '-' ∨ isDigit d = true) ∧ ∀ c ∈ ds, Json.Scanner.isNumberChar c = true := by
  obtain ⟨negative, whole, fraction, exponent⟩ := t
  obtain ⟨⟨some_digit, digits⟩, -, fraction_digits, exponent_digits⟩ := h
  have numeral {c : Char} (hc : isDigit c = true) : Json.Scanner.isNumberChar c = true := by
    simp [Json.Scanner.isNumberChar, hc]
  have in_fraction : ∀ c ∈ fractionChars fraction, Json.Scanner.isNumberChar c = true := by
    cases fraction with
    | none => exact fun c hc => absurd hc List.not_mem_nil
    | some fs => exact List.forall_mem_cons.2 ⟨rfl, fun c hc =>
        numeral ((fraction_digits fs rfl).2 c hc)⟩
  have in_exponent : ∀ c ∈ exponentChars exponent, Json.Scanner.isNumberChar c = true := by
    cases exponent with
    | none => exact fun c hc => absurd hc List.not_mem_nil
    | some e =>
      refine List.forall_mem_cons.2 ⟨rfl, List.forall_mem_cons.2 ⟨?_, fun c hc =>
        numeral ((exponent_digits e rfl).2 c hc)⟩⟩
      cases e.1 <;> rfl
  have after : ∀ c ∈ fractionChars fraction ++ exponentChars exponent,
      Json.Scanner.isNumberChar c = true := List.forall_mem_append.2 ⟨in_fraction, in_exponent⟩
  obtain ⟨d, ds, rfl⟩ := List.exists_cons_of_ne_nil some_digit
  obtain ⟨first, rest⟩ := List.forall_mem_cons.1 digits
  cases negative with
  | true =>
    have all : ∀ c ∈ (d :: ds) ++ (fractionChars fraction ++ exponentChars exponent),
        Json.Scanner.isNumberChar c = true :=
      List.forall_mem_append.2 ⟨fun c hc => numeral (digits c hc), after⟩
    exact ⟨'-', _, rfl, .inl rfl, all⟩
  | false =>
    exact ⟨d, _, rfl, .inr first, List.forall_mem_append.2 ⟨fun c hc => numeral (rest c hc), after⟩⟩

/-! ## Integers -/

theorem wellFormed_toDigits (negative : Bool) (n : Nat) :
    (NumberText.mk negative (Nat.toDigits 10 n) none none).WellFormed where
  whole := areDigits_toDigits n
  zero first := by
    rw [eq_zero_of_head?_toDigits first]
    rfl
  fraction _ none := absurd none (Option.not_mem_none _)
  exponent _ none := absurd none (Option.not_mem_none _)

theorem takeWhole_eq {ds : List Char} :
    ∀ {n : Nat}, Nat.ofDigitChars 10 ds n ≤ maxSignificand →
      takeWhole n ds = (Nat.ofDigitChars 10 ds n, 0) := by
  induction ds with
  | nil => intro n _; rfl
  | cons d ds ih =>
    intro n h
    rw [Nat.ofDigitChars_cons] at h ⊢
    rw [takeWhole, Nat.mul_comm n 10]
    have hle : 10 * n + (d.toNat - '0'.toNat) ≤ maxSignificand := by
      refine Nat.le_trans ?_ h
      rw [Nat.ofDigitChars_eq_ofDigitChars_zero]
      exact Nat.le_trans (Nat.le_mul_of_pos_left _ (Nat.pow_pos (by decide))) (Nat.le_add_right _ _)
    simp only [if_pos hle]
    exact ih h

theorem takeWhole_toDigits {n : Nat} (h : n ≤ maxSignificand) :
    takeWhole 0 (Nat.toDigits 10 n) = (n, 0) := by
  have e : Nat.ofDigitChars 10 (Nat.toDigits 10 n) 0 = n := Nat.ofDigitChars_ten_toDigits
  rw [takeWhole_eq (by rw [e]; exact h), e]

theorem digitsValue_toDigits (n : Nat) : digitsValue (Nat.toDigits 10 n) = n := by
  have same (ds : List Char) (m : Nat) :
      ds.foldl (fun n d => n * 10 + (d.toNat - '0'.toNat)) m = Nat.ofDigitChars 10 ds m := by
    induction ds generalizing m with
    | nil => rfl
    | cons d ds ih => rw [List.foldl_cons, ih, Nat.ofDigitChars_cons, Nat.mul_comm]
  rw [digitsValue, same, Nat.ofDigitChars_ten_toDigits]

/-- A text of digits alone names an integer. -/
theorem value?_digits {n : Nat} {negative : Bool} (h : n ≤ maxSignificand)
    (fits : negative = true → 0 < n ∧ n ≤ 0x8000000000000000) :
    (NumberText.mk negative (Nat.toDigits 10 n) none none).value? =
      some (.int (if negative then -(n : Int) else n)) := by
  simp only [value?, takeWhole_toDigits h]
  cases negative with
  | false => rfl
  | true =>
    obtain ⟨pos, le⟩ := fits rfl
    have hn : ¬(n = 0 ∨ 0x8000000000000000 < n) := by omega
    simp [hn]

end NumberText

/-! ## Other values

The shortest digits of a value are laid out around the point or before an exponent.  The one thing
that could break the grammar is a zero in front, and only zero has one. -/

namespace Decimal

open NumberText

theorem digits_stripZeros {fuel : Nat} {c : Decimal} (h : c.digits ≠ 0) :
    (stripZeros fuel c).digits ≠ 0 := by
  induction fuel generalizing c with
  | zero => exact h
  | succ fuel ih =>
    rw [stripZeros]
    split
    · next round => exact ih (by simp only; omega)
    · exact h

theorem digits_shortest {x : Binary64} (h : x.significand ≠ 0) : (shortest x).digits ≠ 0 := by
  refine digits_stripZeros ?_
  cases found : ((List.range 17).map (· + 1)).findSome?
      (onGrid x (neighbourhood x) (magnitude x.toRatio.1 x.toRatio.2)) with
  | none => exact h
  | some c =>
    obtain ⟨n, -, grid⟩ := List.exists_of_findSome?_eq_some found
    have passed := List.find?_some grid
    simp only [Bool.and_eq_true, decide_eq_true_eq] at passed
    exact passed.1

theorem wellFormed_of_point {whole fraction : List Char} (negative : Bool)
    (whole_digits : AreDigits whole) (zero : whole.head? = some '0' → whole.length = 1)
    (fraction_digits : AreDigits fraction) :
    (NumberText.mk negative whole (some fraction) none).WellFormed where
  whole := whole_digits
  zero := zero
  fraction
    | _, rfl => fraction_digits
  exponent _ none := absurd none (Option.not_mem_none _)

theorem wellFormed_of_exponent {d : Char} (digit : isDigit d = true) (negative : Bool)
    {fraction : Option (List Char)} (fraction_digits : ∀ ds ∈ fraction, AreDigits ds)
    (small : Bool) (n : Nat) :
    (NumberText.mk negative [d] fraction (some (small, Nat.toDigits 10 n))).WellFormed where
  whole := areDigits_cons.2 ⟨digit, fun _ none => absurd none List.not_mem_nil⟩
  zero _ := rfl
  fraction := fraction_digits
  exponent
    | _, rfl => areDigits_toDigits n

/-- **A decimal is written by the grammar of numbers.** -/
theorem exists_text_eq {c : Decimal} (nonzero : c.digits ≠ 0) : ∃ whole fraction exponent,
    (∀ negative, (NumberText.mk negative whole fraction exponent).WellFormed) ∧
      c.text = whole ++ (fractionChars fraction ++ exponentChars exponent) := by
  obtain ⟨some_digit, digits⟩ := areDigits_toDigits c.digits
  have first : (Nat.toDigits 10 c.digits).head? ≠ some '0' :=
    fun zero => nonzero (eq_zero_of_head?_toDigits zero)
  have zeros (n : Nat) : ∀ d ∈ List.replicate n '0', isDigit d = true := fun d hd => by
    rw [List.eq_of_mem_replicate hd]
    rfl
  rw [text]
  generalize Nat.toDigits 10 c.digits = ds at *
  simp only
  split
  case isTrue =>
    -- one digit before the point, and an exponent
    generalize c.scale + (ds.length : Int) - 1 = e
    obtain ⟨d, rest, rfl⟩ := List.exists_cons_of_ne_nil some_digit
    obtain ⟨digit, digits⟩ := List.forall_mem_cons.1 digits
    cases rest with
    | nil =>
      refine ⟨[d], none, some (decide (e < 0), Nat.toDigits 10 e.natAbs),
        fun negative => wellFormed_of_exponent digit negative (by simp) _ _, ?_⟩
      simp [fractionChars, exponentChars]
    | cons f rest =>
      refine ⟨[d], some (f :: rest), some (decide (e < 0), Nat.toDigits 10 e.natAbs),
        fun negative => wellFormed_of_exponent digit negative ?_ _ _, ?_⟩
      · rintro _ ⟨⟩
        exact ⟨List.cons_ne_nil _ _, digits⟩
      · simp [fractionChars, exponentChars]
  case isFalse =>
    split
    case isTrue =>
      -- a zero before the point
      refine ⟨['0'], some (List.replicate (-(c.scale + ds.length)).toNat '0' ++ ds), none,
        fun negative => wellFormed_of_point negative (areDigits_cons.2 ⟨rfl, by simp⟩)
          (fun _ => rfl) ⟨by simp [some_digit], ?_⟩, ?_⟩
      · exact List.forall_mem_append.2 ⟨zeros _, digits⟩
      · simp [fractionChars, exponentChars]
    case isFalse near positive =>
      split
      case isTrue inside =>
        -- the point among the digits
        have before : 0 < (c.scale + ds.length).toNat := by omega
        have behind : (c.scale + ds.length).toNat < ds.length := by omega
        refine ⟨ds.take (c.scale + ds.length).toNat, some (ds.drop (c.scale + ds.length).toNat),
          none, fun negative => wellFormed_of_point negative ⟨?_, ?_⟩ ?_ ⟨?_, ?_⟩, ?_⟩
        · simp [some_digit, before.ne']
        · exact fun x hx => digits x (List.mem_of_mem_take hx)
        · rw [List.head?_take, if_neg before.ne']
          exact fun zero => absurd zero first
        · simpa using behind
        · exact fun x hx => digits x (List.mem_of_mem_drop hx)
        · simp [fractionChars, exponentChars]
      case isFalse =>
        -- zeros up to the point
        refine ⟨ds ++ List.replicate c.scale.toNat '0', some ['0'], none,
          fun negative => wellFormed_of_point negative ⟨by simp [some_digit], ?_⟩ ?_
            (areDigits_cons.2 ⟨rfl, by simp⟩), ?_⟩
        · exact List.forall_mem_append.2 ⟨digits, zeros _⟩
        · obtain ⟨d, rest, rfl⟩ := List.exists_cons_of_ne_nil some_digit
          exact fun zero => absurd zero first
        · simp [fractionChars, exponentChars]

end Decimal

/-! ## All numbers -/

namespace Json.Number

/-- What a written integer consists of: an optional sign, and digits. -/
theorem text_int (n : Int) :
    (Number.int n).text =
      if n < 0 then '-' :: Nat.toDigits 10 n.natAbs else Nat.toDigits 10 n.natAbs := by
  cases n with
  | ofNat n =>
    have h : ¬((n : Int) < 0) := by omega
    simp [Number.text, Int.repr, h]
  | negSucc n =>
    have h : Int.negSucc n < 0 := Int.negSucc_lt_zero n
    simp [Number.text, Int.repr, h]

theorem text_int_eq_chars (n : Int) : (Number.int n).text =
    (NumberText.mk (decide (n < 0)) (Nat.toDigits 10 n.natAbs) none none).chars := by
  rw [text_int]
  split <;> simp_all [NumberText.chars, NumberText.fractionChars, NumberText.exponentChars]

/-- **Every number is written by the grammar.** -/
theorem exists_text_eq_chars (n : Number) : ∃ t : NumberText, t.WellFormed ∧ n.text = t.chars := by
  cases n with
  | int n => exact ⟨_, NumberText.wellFormed_toDigits _ _, text_int_eq_chars n⟩
  | float negative x =>
    by_cases zero : x.significand = 0
    · have zero_digit : NumberText.AreDigits ['0'] := NumberText.areDigits_cons.2 ⟨rfl, by simp⟩
      refine ⟨_, Decimal.wellFormed_of_point negative zero_digit (fun _ => rfl) zero_digit, ?_⟩
      rw [Number.text, if_pos zero]
      rfl
    · obtain ⟨whole, fraction, exponent, formed, written⟩ :=
        Decimal.exists_text_eq (Decimal.digits_shortest zero)
      exact ⟨_, formed negative, by rw [Number.text, if_neg zero, written, NumberText.chars]⟩

/-- The number that a written number is read as; none beyond the binary64 range. -/
def reread? (n : Number) : Option Number := (NumberText.parse? n.text).bind NumberText.value?

/-- An integer of 64 bits, signed or unsigned. -/
def Fits : Number → Prop
  | .int n => -0x8000000000000000 ≤ n ∧ n ≤ 0xFFFFFFFFFFFFFFFF
  | .float _ _ => False

instance : ∀ n : Number, Decidable n.Fits
  | .int _ => inferInstanceAs (Decidable (_ ∧ _))
  | .float _ _ => inferInstanceAs (Decidable False)

theorem fits_toInt (n : Int64) : (Number.int n.toInt).Fits := by
  have low := n.le_toInt
  have high := n.toInt_lt
  constructor <;> omega

/-- **An integer of 64 bits is read as it was written.** -/
theorem reread?_of_fits {n : Number} (h : n.Fits) : n.reread? = some n := by
  cases n with
  | float => exact h.elim
  | int n =>
    obtain ⟨low, high⟩ := h
    have size : n.natAbs ≤ NumberText.maxSignificand := by
      simp only [NumberText.maxSignificand]
      omega
    rw [reread?, text_int_eq_chars, NumberText.parse?_chars (NumberText.wellFormed_toDigits _ _),
      Option.bind_some, NumberText.value?_digits size fun negative => ?_]
    · simp only [decide_eq_true_eq, Option.some.injEq, Number.int.injEq]
      split <;> omega
    · have negative := of_decide_eq_true negative
      omega

end Json.Number

/-- Different integers are written differently. -/
theorem Json.toString_toInt_injective {m n : Int64} (h : toString m.toInt = toString n.toInt) :
    m = n := by
  have same : (Number.int m.toInt).reread? = (Number.int n.toInt).reread? := by
    rw [Number.reread?, Number.reread?, Number.text, Number.text, h]
  rw [Number.reread?_of_fits (Number.fits_toInt m),
    Number.reread?_of_fits (Number.fits_toInt n)] at same
  exact Int64.toInt_inj.1 (Number.int.inj (Option.some.inj same))

end ProxyFeed
