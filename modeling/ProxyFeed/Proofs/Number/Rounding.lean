import ProxyFeed.Number.Rounding
import Mathlib.Data.Nat.Log

/-!
# Rounding keeps the order

## What is here

* `Rounding.halfEven_mono` and `Rounding.significant53_mono` — greater numbers are not rounded to
  lesser ones.
* `Rounding.halfEven_mul` and `Rounding.significant53_eq_self` — what needs no rounding stays as it
  is.
* `Rounding.halfEven_near` — a quotient is rounded by a half at most.
-/

set_option autoImplicit false
namespace ProxyFeed
namespace Rounding

variable {a a' b c m n : Nat}

/-! ## Rounding a quotient -/

theorem div_le_halfEven (a b : Nat) : a / b ≤ halfEven a b := by
  rw [halfEven]
  split
  · exact Nat.le_refl _
  · split <;> exact Nat.le_add_right _ _

theorem halfEven_le_div_add_one (a b : Nat) : halfEven a b ≤ a / b + 1 := by
  rw [halfEven]
  split
  · exact Nat.le_add_right _ _
  · split <;> omega

/-- An integer is not rounded. -/
theorem halfEven_mul (pos : 0 < b) (c : Nat) : halfEven (c * b) b = c := by
  rw [halfEven, Nat.mul_mod_left, Nat.mul_div_cancel c pos]
  exact if_pos pos

/-- **Rounding keeps the order of quotients.** -/
theorem halfEven_mono (h : a ≤ a') : halfEven a b ≤ halfEven a' b := by
  rcases Nat.lt_or_eq_of_le (Nat.div_le_div_right (c := b) h) with lt | same
  · calc halfEven a b ≤ a / b + 1 := halfEven_le_div_add_one a b
      _ ≤ a' / b := lt
      _ ≤ halfEven a' b := div_le_halfEven a' b
  · -- the integer parts agree, so the remainders decide
    have remainders : a % b ≤ a' % b := by
      have whole := Nat.div_add_mod a b
      have whole' := Nat.div_add_mod a' b
      rw [same] at whole
      omega
    rw [halfEven, halfEven, same]
    split_ifs <;> omega

theorem halfEven_le (pos : 0 < b) (h : a ≤ c * b) : halfEven a b ≤ c :=
  (halfEven_mono h).trans_eq (halfEven_mul pos c)

theorem le_halfEven (pos : 0 < b) (h : c * b ≤ a) : c ≤ halfEven a b :=
  (halfEven_mul pos c).symm.trans_le (halfEven_mono h)

/-- **A quotient is rounded by a half at most.** -/
theorem halfEven_near (pos : 0 < b) (a : Nat) :
    2 * (halfEven a b * b) ≤ 2 * a + b ∧ 2 * a ≤ 2 * (halfEven a b * b) + b := by
  have whole := Nat.div_add_mod a b
  have small := Nat.mod_lt a pos
  have up : (a / b + 1) * b = b * (a / b) + b := by rw [Nat.add_mul, Nat.one_mul, Nat.mul_comm]
  have down : a / b * b = b * (a / b) := Nat.mul_comm _ _
  rw [halfEven]
  split
  · omega
  · split
    · omega
    · rcases Nat.mod_two_eq_zero_or_one (a / b) with even | odd
      · rw [even, Nat.add_zero]
        omega
      · rw [odd]
        omega

/-! ## Keeping 53 binary digits -/

/-- The weight of the last of the binary digits that are kept. -/
theorem pow_log2_eq (n : Nat) :
    ∃ k, Nat.pow 2 n.log2 = k * Nat.pow 2 (n.log2 - 52) := by
  refine ⟨Nat.pow 2 (n.log2 - (n.log2 - 52)), ?_⟩
  have digits : n.log2 - (n.log2 - 52) + (n.log2 - 52) = n.log2 := by omega
  exact (congrArg (Nat.pow 2) digits).symm.trans (Nat.pow_add 2 _ _)

theorem pow_log2_le_significant53 (h : n ≠ 0) : Nat.pow 2 n.log2 ≤ significant53 n := by
  obtain ⟨k, weight⟩ := pow_log2_eq n
  have pos : 0 < Nat.pow 2 (n.log2 - 52) := Nat.two_pow_pos _
  have le : k * Nat.pow 2 (n.log2 - 52) ≤ n := weight.symm.trans_le (Nat.log2_self_le h)
  rw [weight, significant53]
  exact Nat.mul_le_mul_right _ (le_halfEven pos le)

theorem significant53_le_pow_log2 (n : Nat) : significant53 n ≤ Nat.pow 2 (n.log2 + 1) := by
  obtain ⟨k, weight⟩ := pow_log2_eq n
  have pos : 0 < Nat.pow 2 (n.log2 - 52) := Nat.two_pow_pos _
  have double : Nat.pow 2 (n.log2 + 1) = 2 * k * Nat.pow 2 (n.log2 - 52) := by
    rw [Nat.mul_assoc, ← weight]
    exact Nat.pow_succ'
  have le : n ≤ 2 * k * Nat.pow 2 (n.log2 - 52) := double.symm.trans_ge Nat.lt_log2_self.le
  rw [double, significant53]
  exact Nat.mul_le_mul_right _ (halfEven_le pos le)

/-- **Keeping 53 binary digits keeps the order**, also where a rounded number needs one digit more
than before. -/
theorem significant53_mono (h : m ≤ n) : significant53 m ≤ significant53 n := by
  rcases Nat.lt_or_ge m.log2 n.log2 with fewer | as_many
  · have nonzero : n ≠ 0 := by
      rintro rfl
      exact absurd fewer (Nat.not_lt_zero _)
    -- a power of two lies between the two, and neither is rounded beyond it
    calc significant53 m ≤ Nat.pow 2 (m.log2 + 1) := significant53_le_pow_log2 m
      _ ≤ Nat.pow 2 n.log2 := Nat.pow_le_pow_right (by decide) fewer
      _ ≤ significant53 n := pow_log2_le_significant53 nonzero
  · have same : m.log2 = n.log2 := by
      refine Nat.le_antisymm ?_ as_many
      rw [Nat.log2_eq_log_two, Nat.log2_eq_log_two]
      exact Nat.log_mono_right h
    rw [significant53, significant53, same]
    exact Nat.mul_le_mul_right _ (halfEven_mono h)

/-- Numbers of 53 binary digits stay as they are, and so does the next one. -/
theorem significant53_eq_self (h : n ≤ Nat.pow 2 53) : significant53 n = n := by
  rcases Nat.lt_or_eq_of_le h with lt | rfl
  · have digits : n.log2 - 52 = 0 := by
      rcases Nat.eq_zero_or_pos n with rfl | pos
      · rfl
      · have := (Nat.log2_lt pos.ne').2 lt
        omega
    have kept := halfEven_mul Nat.one_pos n
    rw [Nat.mul_one] at kept
    rw [significant53, digits]
    exact (Nat.mul_one _).trans kept
  · decide +kernel

end Rounding
end ProxyFeed
