import Mathlib.Data.Nat.Log
import Mathlib.Data.Rat.Floor
import Mathlib.Tactic.FieldSimp
import Mathlib.Tactic.Linarith
import Mathlib.Tactic.NormNum
import Mathlib.Tactic.Positivity
import Mathlib.Tactic.Ring

namespace Numeric

/-- Where the first digit of a number stands; digits are to the base 10000. -/
def weight (n : ℕ) : ℕ := Nat.log 10000 n

def firstDigit (n : ℕ) : ℕ := n / 10000 ^ weight n

/-- An estimate of where the first digit of a quotient stands. -/
def quotientWeight (a b : ℕ) : ℤ := weight a - weight b - if firstDigit a ≤ firstDigit b then 1 else 0

/-- How many decimals a quotient is given, so that 16 digits at least are
significant. The upper bound of 1000 is out of reach of machine integers. -/
def divScale (a b : ℕ) : ℕ := (16 - 4 * quotientWeight a b).toNat

/-- The quotient of the SQL type numeric, whose last decimal is rounded. -/
def divide (a b : ℕ) : ℚ := ⌊(a / b : ℚ) * 10 ^ divScale a b + 1 / 2⌋ / 10 ^ divScale a b

variable {a b n : ℕ}

theorem le_of_firstDigit (positive : 0 < n) : 0 < firstDigit n ∧ firstDigit n * 10000 ^ weight n ≤ n :=
  ⟨Nat.div_pos (Nat.pow_log_le_self 10000 positive.ne') (by positivity), Nat.div_mul_le_self ..⟩

theorem lt_of_firstDigit : n < (firstDigit n + 1) * 10000 ^ weight n :=
  Nat.lt_mul_of_div_lt (Nat.lt_succ_self _) (by positivity)

theorem firstDigit_lt (n : ℕ) : firstDigit n < 10000 := by
  refine Nat.div_lt_of_lt_mul ?_
  have next : n < 10000 ^ (weight n + 1) := Nat.lt_pow_succ_log_self (by norm_num) n
  rwa [pow_succ] at next

/-- The estimate is never too high. -/
theorem le_quotient (numerator : 0 < a) (denominator : 0 < b) : (10000 : ℚ) ^ quotientWeight a b ≤ a / b := by
  obtain ⟨-, first⟩ := le_of_firstDigit numerator
  have rest := lt_of_firstDigit (n := b)
  have digit := firstDigit_lt b
  have divisor : (0 : ℚ) < b := by exact_mod_cast denominator
  have power : (0 : ℚ) < 10000 ^ weight b := by positivity
  rw [le_div_iff₀ divisor, quotientWeight]
  split
  · rename_i notAbove
    have positive := (le_of_firstDigit numerator).1
    have within : b ≤ 10000 * 10000 ^ weight b := rest.le.trans (Nat.mul_le_mul_right _ digit)
    have above : 10000 ^ weight a ≤ a := (Nat.le_mul_of_pos_left _ positive).trans first
    calc (10000 : ℚ) ^ ((weight a : ℤ) - weight b - 1) * b
        ≤ 10000 ^ ((weight a : ℤ) - weight b - 1) * (10000 * 10000 ^ weight b) := by
          refine mul_le_mul_of_nonneg_left ?_ (zpow_pos (by norm_num) _).le
          exact_mod_cast within
      _ = 10000 ^ weight a := by
          rw [zpow_sub₀ (by norm_num), zpow_sub₀ (by norm_num), zpow_natCast, zpow_natCast, zpow_one]
          field_simp
      _ ≤ a := by exact_mod_cast above
  · rename_i above
    have larger : firstDigit b + 1 ≤ firstDigit a := not_le.mp above
    have within : b ≤ firstDigit a * 10000 ^ weight b := rest.le.trans (Nat.mul_le_mul_right _ larger)
    calc (10000 : ℚ) ^ ((weight a : ℤ) - weight b - 0) * b
        ≤ 10000 ^ ((weight a : ℤ) - weight b - 0) * (firstDigit a * 10000 ^ weight b) := by
          refine mul_le_mul_of_nonneg_left ?_ (zpow_pos (by norm_num) _).le
          exact_mod_cast within
      _ = firstDigit a * 10000 ^ weight a := by
          rw [sub_zero, zpow_sub₀ (by norm_num), zpow_natCast, zpow_natCast]
          field_simp
      _ ≤ a := by exact_mod_cast first

theorem le_divScale (numerator : 0 < a) (denominator : 0 < b) (small : (a : ℚ) / b < 10000) : 16 ≤ divScale a b := by
  have power : (10000 : ℚ) ^ quotientWeight a b < 10000 ^ (1 : ℤ) := by
    rw [zpow_one]
    exact (le_quotient numerator denominator).trans_lt small
  have estimate : quotientWeight a b < 1 := (zpow_lt_zpow_iff_right₀ (by norm_num)).mp power
  unfold divScale
  omega

/-- The quotient is off by half a unit of its sixteenth digit at most. -/
theorem divide_close (numerator : 0 < a) (denominator : 0 < b) : |divide a b - a / b| ≤ a / b / (2 * 10 ^ 16) := by
  have scale : (0 : ℚ) < 10 ^ divScale a b := by positivity
  have lower := Int.lt_floor_add_one ((a : ℚ) / b * 10 ^ divScale a b + 1 / 2)
  have upper := Int.floor_le ((a : ℚ) / b * 10 ^ divScale a b + 1 / 2)
  have half : |(⌊(a : ℚ) / b * 10 ^ divScale a b + 1 / 2⌋ : ℚ) - a / b * 10 ^ divScale a b| ≤ 1 / 2 := by
    rw [abs_le]
    constructor <;> linarith
  have digits : (10 : ℚ) ^ 16 ≤ a / b * 10 ^ divScale a b := by
    have enough : (16 : ℤ) ≤ 4 * quotientWeight a b + divScale a b := by
      unfold divScale
      omega
    calc (10 : ℚ) ^ 16 = 10 ^ (16 : ℤ) := by norm_num
      _ ≤ 10 ^ (4 * quotientWeight a b + divScale a b) := zpow_le_zpow_right₀ (by norm_num) enough
      _ = 10000 ^ quotientWeight a b * 10 ^ divScale a b := by
          rw [zpow_add₀ (by norm_num), zpow_mul, zpow_natCast]
          norm_num
      _ ≤ a / b * 10 ^ divScale a b := mul_le_mul_of_nonneg_right (le_quotient numerator denominator) scale.le
  have error : divide a b - a / b = (⌊(a : ℚ) / b * 10 ^ divScale a b + 1 / 2⌋ - a / b * 10 ^ divScale a b) / 10 ^ divScale a b := by
    rw [divide]
    field_simp
  rw [error, abs_div, abs_of_pos scale, div_le_iff₀ scale]
  calc |(⌊(a : ℚ) / b * 10 ^ divScale a b + 1 / 2⌋ : ℚ) - a / b * 10 ^ divScale a b| ≤ 1 / 2 := half
    _ ≤ a / b * 10 ^ divScale a b / (2 * 10 ^ 16) := by
        rw [div_le_div_iff₀ (by norm_num) (by norm_num)]
        linarith
    _ = a / b / (2 * 10 ^ 16) * 10 ^ divScale a b := by ring

/-- A quotient with few decimals is exact. -/
theorem divide_exact {d : ℕ} (fits : d ≤ divScale a b) (whole : (a : ℚ) / b * 10 ^ d = n) : divide a b = a / b := by
  obtain ⟨more, scale⟩ := Nat.exists_eq_add_of_le fits
  have integer : (a : ℚ) / b * 10 ^ divScale a b = ((n * 10 ^ more : ℕ) : ℤ) := by
    rw [scale, pow_add, ← mul_assoc, whole]
    push_cast
    ring
  have floor : ⌊(((n * 10 ^ more : ℕ) : ℤ) : ℚ) + 1 / 2⌋ = (n * 10 ^ more : ℕ) := by
    rw [Int.floor_eq_iff]
    constructor <;> linarith
  rw [divide, integer, floor, ← integer, mul_div_assoc, div_self (by positivity), mul_one]

end Numeric
