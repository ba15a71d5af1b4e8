import Mathlib.Data.Int.Log
import Mathlib.Data.Rat.Floor
import Mathlib.Tactic.Linarith
import Mathlib.Tactic.NormNum
import Mathlib.Tactic.Positivity
import Mathlib.Tactic.Ring

namespace Binary64

section nearest

variable {K : Type*} [Field K] [LinearOrder K] [IsStrictOrderedRing K] {grid : Set K} {x x' y y' : K}

/-- A point of a grid that no other comes closer than. -/
structure Nearest (grid : Set K) (x y : K) : Prop where
  mem : y ∈ grid
  closest : ∀ z ∈ grid, |y - x| ≤ |z - x|

theorem Nearest.eq_of_mem (nearest : Nearest grid x y) (mem : x ∈ grid) : y = x := by
  have distance := nearest.closest x mem
  rw [sub_self, abs_zero] at distance
  exact sub_eq_zero.mp (abs_nonpos_iff.mp distance)

/-- However ties are broken, rounding to a grid is monotone. -/
theorem Nearest.mono (nearest : Nearest grid x y) (nearest' : Nearest grid x' y') (less : x < x') : y ≤ y' := by
  by_contra crossed
  have below := nearest.closest y' nearest'.mem
  have above := nearest'.closest y nearest.mem
  rcases abs_cases (y - x) with ⟨first, _⟩ | ⟨first, _⟩ <;> rcases abs_cases (y' - x) with ⟨second, _⟩ | ⟨second, _⟩ <;>
    rcases abs_cases (y' - x') with ⟨third, _⟩ | ⟨third, _⟩ <;> rcases abs_cases (y - x') with ⟨fourth, _⟩ | ⟨fourth, _⟩ <;>
      linarith

end nearest

/-- Round to nearest, ties to even. -/
def roundHalfEven (x : ℚ) : ℤ :=
  if x - ⌊x⌋ < 1 / 2 then ⌊x⌋
  else if 1 / 2 < x - ⌊x⌋ then ⌊x⌋ + 1
  else if Even ⌊x⌋ then ⌊x⌋
  else ⌊x⌋ + 1

theorem roundHalfEven_half (x : ℚ) : |(roundHalfEven x : ℚ) - x| ≤ 1 / 2 := by
  have below := Int.floor_le x
  have above := Int.lt_floor_add_one x
  unfold roundHalfEven
  rw [abs_le]
  split
  · constructor <;> linarith
  · split
    · push_cast
      constructor <;> linarith
    · split
      · constructor <;> linarith
      · push_cast
        constructor <;> linarith

/-- No integer comes closer. -/
theorem roundHalfEven_closest (x : ℚ) (n : ℤ) : |(roundHalfEven x : ℚ) - x| ≤ |(n : ℚ) - x| := by
  by_cases same : n = roundHalfEven x
  · rw [same]
  · have apart : (1 : ℚ) ≤ |(n : ℚ) - roundHalfEven x| := by
      exact_mod_cast Int.one_le_abs (sub_ne_zero.mpr same)
    have half := roundHalfEven_half x
    have triangle := abs_sub_le (n : ℚ) x (roundHalfEven x)
    rw [abs_sub_comm x] at triangle
    linarith

/-- The values of a format with 53 bits and subnormals, without a largest one. -/
def grid : Set ℚ := { x | ∃ m e : ℤ, |m| ≤ 2 ^ 53 ∧ -1074 ≤ e ∧ x = m * 2 ^ e }

/-- The exponent of the unit in the last place. -/
def exponent (x : ℚ) : ℤ := max (Int.log 2 |x| - 52) (-1074)

def round (x : ℚ) : ℚ := roundHalfEven (x / 2 ^ exponent x) * 2 ^ exponent x

theorem exponent_pos (x : ℚ) : (0 : ℚ) < 2 ^ exponent x := zpow_pos (by norm_num) _

theorem abs_lt_ulp (x : ℚ) : |x| < 2 ^ 53 * 2 ^ exponent x := by
  have bound : |x| < (2 : ℚ) ^ (Int.log 2 |x| + 1) := by
    exact_mod_cast Int.lt_zpow_succ_log_self (b := 2) (by norm_num) |x|
  have scale : (2 : ℚ) ^ 53 * 2 ^ exponent x = 2 ^ (53 + exponent x) := by
    rw [zpow_add₀ (by norm_num)]
    norm_num
  have exponents : Int.log 2 |x| + 1 ≤ 53 + exponent x := by
    have := le_max_left (Int.log 2 |x| - 52) (-1074)
    unfold exponent
    omega
  rw [scale]
  exact lt_of_lt_of_le bound (zpow_le_zpow_right₀ (by norm_num) exponents)

theorem round_mem (x : ℚ) : round x ∈ grid := by
  refine ⟨roundHalfEven (x / 2 ^ exponent x), exponent x, ?_, le_max_right .., rfl⟩
  have half := roundHalfEven_half (x / 2 ^ exponent x)
  have bound : |x / 2 ^ exponent x| < 2 ^ 53 := by
    rw [abs_div, abs_of_pos (exponent_pos x), div_lt_iff₀ (exponent_pos x)]
    exact abs_lt_ulp x
  have near : |(roundHalfEven (x / 2 ^ exponent x) : ℚ)| < 2 ^ 53 + 1 := by
    have triangle := abs_add_le ((roundHalfEven (x / 2 ^ exponent x) : ℚ) - x / 2 ^ exponent x) (x / 2 ^ exponent x)
    rw [sub_add_cancel] at triangle
    linarith
  have integers : |roundHalfEven (x / 2 ^ exponent x)| < 2 ^ 53 + 1 := by exact_mod_cast near
  omega

/-- A multiple of the unit in the last place comes no closer than the rounded value. -/
theorem round_closest_multiple {x y : ℚ} {n : ℤ} (multiple : y = n * 2 ^ exponent x) : |round x - x| ≤ |y - x| := by
  have scaled (k : ℤ) : |(k : ℚ) * 2 ^ exponent x - x| = |(k : ℚ) - x / 2 ^ exponent x| * 2 ^ exponent x := by
    rw [← abs_of_pos (exponent_pos x), ← abs_mul, sub_mul, abs_of_pos (exponent_pos x),
      div_mul_cancel₀ x (exponent_pos x).ne']
  rw [multiple, round, scaled, scaled]
  exact mul_le_mul_of_nonneg_right (roundHalfEven_closest _ n) (exponent_pos x).le

theorem multiple_of_le {m e e' : ℤ} (le : e' ≤ e) : ∃ n : ℤ, (m : ℚ) * 2 ^ e = n * 2 ^ e' := by
  obtain ⟨k, rfl⟩ := Int.exists_add_of_le le
  refine ⟨m * 2 ^ k, ?_⟩
  rw [zpow_add₀ (by norm_num)]
  push_cast
  rw [zpow_natCast]
  ring

/-- The power of two below a value that is not rounded to a subnormal. -/
theorem ulp_le_abs {x : ℚ} (nonzero : x ≠ 0) (normal : -1074 < exponent x) : 2 ^ 52 * 2 ^ exponent x ≤ |x| := by
  have power : (2 : ℚ) ^ Int.log 2 |x| ≤ |x| := by
    exact_mod_cast Int.zpow_log_le_self (b := 2) (by norm_num) (abs_pos.mpr nonzero)
  have exponents : Int.log 2 |x| = 52 + exponent x := by
    unfold exponent at normal ⊢
    omega
  rw [exponents, zpow_add₀ (by norm_num)] at power
  exact_mod_cast power

/-- A value with a finer unit lies below that power of two. -/
theorem abs_le_ulp {x : ℚ} {m e : ℤ} (bound : |m| ≤ 2 ^ 53) (finer : e < exponent x) :
    |(m : ℚ) * 2 ^ e| ≤ 2 ^ 52 * 2 ^ exponent x := by
  have mantissa : |(m : ℚ)| ≤ 2 ^ 53 := by exact_mod_cast bound
  have power : (2 : ℚ) ^ (e + 1) ≤ 2 ^ exponent x := zpow_le_zpow_right₀ (by norm_num) finer
  rw [zpow_add_one₀ (by norm_num)] at power
  have positive : (0 : ℚ) < 2 ^ e := zpow_pos (by norm_num) e
  calc |(m : ℚ) * 2 ^ e| = |(m : ℚ)| * 2 ^ e := by rw [abs_mul, abs_of_pos positive]
    _ ≤ 2 ^ 53 * 2 ^ e := mul_le_mul_of_nonneg_right mantissa positive.le
    _ = 2 ^ 52 * (2 ^ e * 2) := by ring
    _ ≤ 2 ^ 52 * 2 ^ exponent x := by linarith

/-- Rounding gives a nearest value of the format. -/
theorem round_nearest (x : ℚ) : Nearest grid x (round x) := by
  refine ⟨round_mem x, ?_⟩
  rintro _ ⟨m, e, bound, subnormal, rfl⟩
  by_cases coarse : exponent x ≤ e
  · obtain ⟨n, multiple⟩ := multiple_of_le (m := m) coarse
    exact round_closest_multiple multiple
  · -- A value with a finer unit is not beyond the power of two below `x`.
    have below := abs_le_ulp bound (not_le.mp coarse)
    rcases lt_trichotomy x 0 with negative | rfl | positive
    · have power := ulp_le_abs negative.ne (subnormal.trans_lt (not_le.mp coarse))
      have closest : |round x - x| ≤ |-(2 ^ 52 * 2 ^ exponent x) - x| := by
        refine round_closest_multiple (n := -2 ^ 52) ?_
        push_cast
        ring
      rw [abs_of_neg negative] at power
      have distance := abs_of_nonneg (show 0 ≤ -(2 ^ 52 * 2 ^ exponent x) - x by linarith)
      have apart := le_abs_self ((m : ℚ) * 2 ^ e - x)
      have lower := neg_abs_le ((m : ℚ) * 2 ^ e)
      linarith
    · have closest : |round 0 - 0| ≤ |(0 : ℚ) - 0| := round_closest_multiple (n := 0) (by simp)
      rw [sub_self (0 : ℚ), abs_zero] at closest
      exact closest.trans (abs_nonneg _)
    · have power := ulp_le_abs positive.ne' (subnormal.trans_lt (not_le.mp coarse))
      have closest : |round x - x| ≤ |2 ^ 52 * 2 ^ exponent x - x| := by
        refine round_closest_multiple (n := 2 ^ 52) ?_
        push_cast
        ring
      rw [abs_of_pos positive] at power
      have distance := abs_of_nonpos (show 2 ^ 52 * 2 ^ exponent x - x ≤ 0 by linarith)
      have apart := neg_abs_le ((m : ℚ) * 2 ^ e - x)
      have upper := le_abs_self ((m : ℚ) * 2 ^ e)
      linarith

theorem round_eq {x : ℚ} (mem : x ∈ grid) : round x = x := (round_nearest x).eq_of_mem mem

theorem round_mono {x y : ℚ} (le : x ≤ y) : round x ≤ round y := by
  rcases le.eq_or_lt with rfl | less
  · exact le_rfl
  · exact (round_nearest x).mono (round_nearest y) less

theorem grid_int {n : ℤ} (bound : |n| ≤ 2 ^ 53) : (n : ℚ) ∈ grid := ⟨n, 0, bound, by norm_num, by simp⟩

/-- Beyond `2 ^ 53` only even integers are numbers. -/
theorem even_of_mem_grid {n : ℤ} (mem : (n : ℚ) ∈ grid) (large : 2 ^ 53 < |n|) : Even n := by
  obtain ⟨m, e, bound, -, value⟩ := mem
  rcases le_or_gt e 0 with fraction | multiple
  · have positive : (0 : ℚ) < 2 ^ e := zpow_pos (by norm_num) e
    have shrinks : (2 : ℚ) ^ e ≤ 1 := zpow_le_one_of_nonpos₀ (by norm_num) fraction
    have small : |(n : ℚ)| ≤ 2 ^ 53 := by
      calc |(n : ℚ)| = |(m : ℚ)| * 2 ^ e := by rw [value, abs_mul, abs_of_pos positive]
        _ ≤ |(m : ℚ)| * 1 := mul_le_mul_of_nonneg_left shrinks (abs_nonneg _)
        _ ≤ 2 ^ 53 := by rw [mul_one]; exact_mod_cast bound
    exact absurd (by exact_mod_cast small) large.not_ge
  · obtain ⟨k, rfl⟩ := Int.eq_succ_of_zero_lt multiple
    have whole : n = m * 2 ^ (k + 1) := by exact_mod_cast value
    rw [whole, pow_succ, ← mul_assoc]
    exact even_two.mul_left _

/-- A finite number of the format. -/
structure Double where
  value : ℚ
  mem : value ∈ grid
  bounded : |value| < 2 ^ 1024
  deriving DecidableEq

theorem natCast_mem_grid {n : ℕ} (small : n ≤ 2 ^ 53) : (n : ℚ) ∈ grid := by
  have integer : |(n : ℤ)| ≤ 2 ^ 53 := by
    rw [Nat.abs_cast]
    exact_mod_cast small
  exact_mod_cast grid_int integer

theorem abs_natCast_lt {n : ℕ} (small : n ≤ 2 ^ 53) : |(n : ℚ)| < 2 ^ 1024 := by
  have rational : (n : ℚ) ≤ 2 ^ 53 := by exact_mod_cast small
  rw [Nat.abs_cast]
  exact rational.trans_lt (pow_lt_pow_right₀ (by norm_num) (by norm_num))

def Double.ofNat (n : ℕ) (small : n ≤ 2 ^ 53) : Double := ⟨n, natCast_mem_grid small, abs_natCast_lt small⟩

/-- The numbers of the format, with one zero. -/
inductive Number
  | nan
  | infinity (negative : Bool)
  | finite (double : Double)
  deriving DecidableEq

namespace Number

/-- A result is rounded, and beyond the largest double it is infinite. -/
def ofRat (x : ℚ) : Number :=
  if bounded : |round x| < 2 ^ 1024 then .finite ⟨round x, round_mem x, bounded⟩ else .infinity (x < 0)

instance (n : ℕ) : OfNat Number n := ⟨ofRat n⟩

def add : Number → Number → Number
  | .finite a, .finite b => ofRat (a.value + b.value)
  | .infinity a, .infinity b => if a = b then .infinity a else .nan
  | .infinity a, .finite _ => .infinity a
  | .finite _, .infinity b => .infinity b
  | _, _ => .nan

def sub : Number → Number → Number
  | .finite a, .finite b => ofRat (a.value - b.value)
  | .infinity a, .infinity b => if a = b then .nan else .infinity a
  | .infinity a, .finite _ => .infinity a
  | .finite _, .infinity b => .infinity (!b)
  | _, _ => .nan

def mul : Number → Number → Number
  | .finite a, .finite b => ofRat (a.value * b.value)
  | .infinity a, .infinity b => .infinity (a != b)
  | .infinity a, .finite b => if b.value = 0 then .nan else .infinity (a != decide (b.value < 0))
  | .finite a, .infinity b => if a.value = 0 then .nan else .infinity (decide (a.value < 0) != b)
  | _, _ => .nan

/-- Division by a positive integer constant. -/
def divNat (n : ℕ) : Number → Number
  | .finite a => ofRat (a.value / n)
  | x => x

instance : Add Number := ⟨add⟩
instance : Sub Number := ⟨sub⟩
instance : Mul Number := ⟨mul⟩

/-- `<`, which is false wherever a NaN is compared. -/
def less : Number → Number → Bool
  | .finite a, .finite b => a.value < b.value
  | .infinity a, .infinity b => a && !b
  | .infinity a, .finite _ => a
  | .finite _, .infinity b => !b
  | _, _ => false

/-- `≤`, likewise. -/
def lessEq : Number → Number → Bool
  | .finite a, .finite b => a.value ≤ b.value
  | .infinity a, .infinity b => a || !b
  | .infinity a, .finite _ => a
  | .finite _, .infinity b => !b
  | _, _ => false

def floor : Number → Number
  | .finite a => ofRat ⌊a.value⌋
  | x => x

/-- The nearest integer, the upper one of two. -/
def roundHalfUp : Number → Number
  | .finite a => ofRat ⌊a.value + 1 / 2⌋
  | x => x

/-- The larger of two, or a NaN where one is. -/
def max : Number → Number → Number
  | .nan, _ => .nan
  | _, .nan => .nan
  | a, b => if a.less b then b else a

def isInteger : Number → Bool
  | .finite a => ⌊a.value⌋ = a.value
  | _ => false

/-- The integer that a number is. -/
def toInt : Number → ℤ
  | .finite a => ⌊a.value⌋
  | _ => 0

/-- The number is a rational one, namely this. -/
def Is (x : Number) (value : ℚ) : Prop := ∃ double : Double, x = .finite double ∧ double.value = value

/-- The number is at least this large, be it infinite. -/
def AtLeast (bound : ℚ) : Number → Prop
  | .finite a => bound ≤ a.value
  | .infinity negative => negative = false
  | .nan => False

variable {a b : Number} {x y bound : ℚ}

theorem Is.unique (is : a.Is x) (is' : a.Is y) : x = y := by
  obtain ⟨double, rfl, rfl⟩ := is
  obtain ⟨_, same, rfl⟩ := is'
  cases same
  rfl

/-- A value of the format is not rounded. -/
theorem ofRat_is (mem : x ∈ grid) (bounded : |x| < 2 ^ 1024) : (ofRat x).Is x := by
  rw [← round_eq mem] at bounded
  exact ⟨⟨round x, round_mem x, bounded⟩, dif_pos bounded, round_eq mem⟩

theorem ofInt_is {n : ℤ} (small : |n| ≤ 2 ^ 53) : (ofRat n).Is n := by
  refine ofRat_is (grid_int small) ?_
  have rational : |(n : ℚ)| ≤ 2 ^ 53 := by exact_mod_cast small
  exact rational.trans_lt (pow_lt_pow_right₀ (by norm_num) (by norm_num))

theorem ofNat_is {n : ℕ} (small : n ≤ 2 ^ 53) : (ofRat n).Is n := ofRat_is (natCast_mem_grid small) (abs_natCast_lt small)

theorem ofRat_zero : ofRat 0 = 0 := congrArg ofRat Nat.cast_zero.symm

theorem Is.add (is : a.Is x) (is' : b.Is y) : a + b = ofRat (x + y) := by
  obtain ⟨_, rfl, rfl⟩ := is
  obtain ⟨_, rfl, rfl⟩ := is'
  rfl

theorem Is.sub (is : a.Is x) (is' : b.Is y) : a - b = ofRat (x - y) := by
  obtain ⟨_, rfl, rfl⟩ := is
  obtain ⟨_, rfl, rfl⟩ := is'
  rfl

theorem Is.mul (is : a.Is x) (is' : b.Is y) : a * b = ofRat (x * y) := by
  obtain ⟨_, rfl, rfl⟩ := is
  obtain ⟨_, rfl, rfl⟩ := is'
  rfl

theorem Is.divNat (is : a.Is x) (n : ℕ) : a.divNat n = ofRat (x / n) := by
  obtain ⟨_, rfl, rfl⟩ := is
  rfl

theorem Is.floor (is : a.Is x) : a.floor = ofRat ⌊x⌋ := by
  obtain ⟨_, rfl, rfl⟩ := is
  rfl

theorem Is.roundHalfUp (is : a.Is x) : a.roundHalfUp = ofRat ⌊x + 1 / 2⌋ := by
  obtain ⟨_, rfl, rfl⟩ := is
  rfl

theorem Is.less (is : a.Is x) (is' : b.Is y) : a.less b = decide (x < y) := by
  obtain ⟨_, rfl, rfl⟩ := is
  obtain ⟨_, rfl, rfl⟩ := is'
  rfl

theorem Is.lessEq (is : a.Is x) (is' : b.Is y) : a.lessEq b = decide (x ≤ y) := by
  obtain ⟨_, rfl, rfl⟩ := is
  obtain ⟨_, rfl, rfl⟩ := is'
  rfl

theorem Is.toInt {n : ℤ} (is : a.Is n) : a.toInt = n := by
  obtain ⟨double, rfl, value⟩ := is
  rw [Number.toInt, value, Int.floor_intCast]

theorem Is.max (is : a.Is x) (is' : b.Is y) : (a.max b).Is (Max.max x y) := by
  have compared := is.less is'
  obtain ⟨first, rfl, rfl⟩ := is
  obtain ⟨second, rfl, rfl⟩ := is'
  simp only [Number.max, compared, decide_eq_true_eq]
  split
  · rename_i less
    exact ⟨second, rfl, (max_eq_right less.le).symm⟩
  · rename_i less
    exact ⟨first, rfl, (max_eq_left (not_lt.mp less)).symm⟩

theorem isInteger_iff : a.isInteger = true ↔ a.Is a.toInt := by
  cases a with
  | nan => exact ⟨nofun, fun ⟨_, same, _⟩ => by cases same⟩
  | infinity _ => exact ⟨nofun, fun ⟨_, same, _⟩ => by cases same⟩
  | finite double =>
    rw [isInteger, decide_eq_true_eq]
    constructor
    · exact fun whole => ⟨double, rfl, whole.symm⟩
    · rintro ⟨double', same, value⟩
      cases same
      exact value.symm

/-- Rounding does not take a value below one of the format. -/
theorem ofRat_atLeast (mem : bound ∈ grid) (positive : 0 ≤ bound) (le : bound ≤ x) : (ofRat x).AtLeast bound := by
  unfold ofRat
  split
  · show bound ≤ round x
    rw [← round_eq mem]
    exact round_mono le
  · exact decide_eq_false (not_lt.mpr (positive.trans le))

theorem Is.atLeast (is : a.Is x) (le : bound ≤ x) : a.AtLeast bound := by
  obtain ⟨double, rfl, rfl⟩ := is
  exact le

theorem AtLeast.add (large : a.AtLeast bound) (is : b.Is y) (mem : bound ∈ grid) (positive : 0 ≤ bound) (nonneg : 0 ≤ y) :
    (a + b).AtLeast bound := by
  obtain ⟨double, rfl, rfl⟩ := is
  cases a with
  | nan => exact large.elim
  | infinity negative => exact large
  | finite first =>
    have le : bound ≤ first.value := large
    exact ofRat_atLeast mem positive (by linarith)

theorem AtLeast.divNat {n : ℕ} (large : a.AtLeast bound) (positive : 0 < n) (mem : x ∈ grid) (nonneg : 0 ≤ x)
    (le : x * n ≤ bound) : (a.divNat n).AtLeast x := by
  cases a with
  | nan => exact large.elim
  | infinity negative => exact large
  | finite double =>
    refine ofRat_atLeast mem nonneg ?_
    rw [le_div_iff₀ (by exact_mod_cast positive)]
    exact le.trans large

theorem AtLeast.floor {n : ℤ} (large : a.AtLeast n) (mem : (n : ℚ) ∈ grid) (nonneg : 0 ≤ n) : a.floor.AtLeast n := by
  cases a with
  | nan => exact large.elim
  | infinity negative => exact large
  | finite double =>
    refine ofRat_atLeast mem (by exact_mod_cast nonneg) ?_
    exact_mod_cast Int.le_floor.mpr large

theorem AtLeast.less (large : a.AtLeast bound) (is : b.Is y) (beyond : y < bound) : b.less a = true := by
  obtain ⟨double, rfl, rfl⟩ := is
  cases a with
  | nan => exact large.elim
  | infinity negative =>
    have positive : negative = false := large
    simp [Number.less, positive]
  | finite first => exact decide_eq_true (beyond.trans_le large)

end Number

/-- A value that rounding cannot take across an integer keeps its floor. -/
theorem floor_round {x bound : ℚ} {n : ℤ} (lower : n ≤ x) (upper : x ≤ bound) (mem : (n : ℚ) ∈ grid) (mem' : bound ∈ grid)
    (below : bound < n + 1) : ⌊round x⌋ = n := by
  have least := round_mono lower
  have most := round_mono upper
  rw [round_eq mem] at least
  rw [round_eq mem'] at most
  rw [Int.floor_eq_iff]
  exact ⟨least, most.trans_lt below⟩

theorem Number.floor_ofRat {x bound : ℚ} {n : ℤ} (small : |n| ≤ 2 ^ 53) (lower : n ≤ x) (upper : x ≤ bound)
    (mem : bound ∈ grid) (below : bound < n + 1) : (ofRat x).floor = ofRat n := by
  have whole := floor_round lower upper (grid_int small) mem below
  have near := Int.floor_eq_iff.mp whole
  have rational : |(n : ℚ)| ≤ 2 ^ 53 := by exact_mod_cast small
  have bounded : |round x| < 2 ^ 54 := by
    have least := neg_abs_le (n : ℚ)
    have most := le_abs_self (n : ℚ)
    rw [abs_lt]
    constructor <;> linarith
  replace bounded : |round x| < 2 ^ 1024 := bounded.trans (pow_lt_pow_right₀ (by norm_num) (by norm_num))
  have finite : (ofRat x).floor = ofRat ⌊round x⌋ := by
    rw [ofRat, dif_pos bounded]
    rfl
  rw [finite, whole]

theorem roundHalfEven_below {x : ℚ} (below : x - ⌊x⌋ < 1 / 2) : roundHalfEven x = ⌊x⌋ := if_pos below

theorem roundHalfEven_above {x : ℚ} (above : 1 / 2 < x - ⌊x⌋) : roundHalfEven x = ⌊x⌋ + 1 := by
  rw [roundHalfEven, if_neg above.not_gt, if_pos above]

theorem roundHalfEven_tie {x : ℚ} (tie : x - ⌊x⌋ = 1 / 2) : roundHalfEven x = if Even ⌊x⌋ then ⌊x⌋ else ⌊x⌋ + 1 := by
  rw [roundHalfEven, if_neg tie.not_lt, if_neg tie.not_gt]

theorem roundHalfEven_neg (x : ℚ) : roundHalfEven (-x) = -roundHalfEven x := by
  have below := Int.floor_le x
  have above := Int.lt_floor_add_one x
  by_cases whole : x = ⌊x⌋
  · have negative : ⌊-x⌋ = -⌊x⌋ := by
      rw [whole, ← Int.cast_neg, Int.floor_intCast, Int.floor_intCast]
    have distance : -x - ⌊-x⌋ < 1 / 2 := by
      rw [negative]
      push_cast
      linarith
    rw [roundHalfEven_below distance, roundHalfEven_below (by linarith), negative]
  · have strict : (⌊x⌋ : ℚ) < x := lt_of_le_of_ne below (Ne.symm whole)
    have negative : ⌊-x⌋ = -⌊x⌋ - 1 := by
      rw [Int.floor_eq_iff]
      push_cast
      constructor <;> linarith
    have rest : -x - ⌊-x⌋ = 1 - (x - ⌊x⌋) := by
      rw [negative]
      push_cast
      ring
    rcases lt_trichotomy (x - ⌊x⌋) (1 / 2) with less | tie | more
    · rw [roundHalfEven_below less, roundHalfEven_above (by linarith), negative]
      ring
    · have parity : Even (-⌊x⌋ - 1) ↔ ¬ Even ⌊x⌋ := by rw [Int.even_sub_one, even_neg]
      rw [roundHalfEven_tie tie, roundHalfEven_tie (by linarith), negative]
      by_cases even : Even ⌊x⌋
      · rw [if_neg (not_not.mpr even ∘ parity.mp), if_pos even]
        ring
      · rw [if_pos (parity.mpr even), if_neg even]
        ring
    · rw [roundHalfEven_above more, roundHalfEven_below (by linarith), negative]
      ring

theorem round_neg (x : ℚ) : round (-x) = -round x := by
  have same : exponent (-x) = exponent x := by rw [exponent, exponent, abs_neg]
  rw [round, round, same, neg_div, roundHalfEven_neg]
  push_cast
  ring

theorem neg_mem_grid {x : ℚ} (mem : x ∈ grid) : -x ∈ grid := by
  obtain ⟨m, e, bound, subnormal, rfl⟩ := mem
  refine ⟨-m, e, by rwa [abs_neg], subnormal, ?_⟩
  push_cast
  ring

/-- A value of the format is an integer number of units in its last place. -/
theorem exists_multiple {x : ℚ} (mem : x ∈ grid) : ∃ n : ℤ, x = n * 2 ^ exponent x :=
  ⟨roundHalfEven (x / 2 ^ exponent x), (round_eq mem).symm⟩

/-- How far apart the values of the format are. -/
theorem le_distance {x z : ℚ} (mem : x ∈ grid) (mem' : z ∈ grid) (positive : 0 < x) (other : z ≠ x) :
    x ≤ 2 ^ 53 * |z - x| := by
  obtain ⟨n, multiple⟩ := exists_multiple mem
  obtain ⟨m, e, bound, subnormal, rfl⟩ := mem'
  have power := exponent_pos x
  have below : x < 2 ^ 53 * 2 ^ exponent x := by
    have ulp := abs_lt_ulp x
    rwa [abs_of_pos positive] at ulp
  by_cases coarse : exponent x ≤ e
  · obtain ⟨k, rewritten⟩ := @multiple_of_le m _ _ coarse
    have apart : (1 : ℚ) ≤ |(k : ℚ) - n| := by
      refine mod_cast Int.one_le_abs (sub_ne_zero.mpr ?_)
      rintro rfl
      exact other (rewritten.trans multiple.symm)
    have distance : |(m : ℚ) * 2 ^ e - x| = |(k : ℚ) - n| * 2 ^ exponent x := by
      nth_rewrite 1 [multiple]
      rw [rewritten, ← sub_mul, abs_mul, abs_of_pos power]
    rw [distance]
    nlinarith only [below, apart, power]
  · have finer := not_le.mp coarse
    have least := ulp_le_abs positive.ne' (subnormal.trans_lt finer)
    have most := (le_abs_self _).trans (abs_le_ulp bound finer)
    rw [abs_of_pos positive] at least
    have distance : |(m : ℚ) * 2 ^ e - x| = x - m * 2 ^ e := by
      rw [abs_sub_comm]
      exact abs_of_nonneg (by linarith)
    have units : (2 : ℤ) ^ 52 ≤ n := by
      exact_mod_cast le_of_mul_le_mul_right (least.trans_eq multiple) power
    rw [distance]
    rcases units.eq_or_lt with lowest | more
    · -- Below a power of two the values stand twice as close.
      obtain ⟨j, steps⟩ := Int.exists_add_of_le (Int.le_sub_one_of_lt finer)
      have value : x = 2 ^ 53 * 2 ^ j * 2 ^ e := by
        have scale : (2 : ℚ) ^ exponent x = 2 * 2 ^ j * 2 ^ e := by
          rw [show exponent x = 1 + j + e by omega, zpow_add₀ (by norm_num), zpow_add₀ (by norm_num), zpow_natCast, zpow_one]
        refine multiple.trans ?_
        rw [scale, ← lowest]
        push_cast
        ring
      have fewer : m ≤ (2 ^ 53 - 1) * 2 ^ j := by
        have most' : m ≤ 2 ^ 53 := (le_abs_self m).trans bound
        cases j with
        | zero =>
          have strict : m ≠ 2 ^ 53 := by
            rintro rfl
            refine other (Eq.trans ?_ value.symm)
            push_cast
            ring
          omega
        | succ j =>
          have double : (2 : ℤ) ≤ 2 ^ (j + 1) := by
            rw [pow_succ]
            have positive : (0 : ℤ) < 2 ^ j := pow_pos (by norm_num) j
            omega
          nlinarith only [double, most']
      have rational : (m : ℚ) ≤ (2 ^ 53 - 1) * 2 ^ j := by exact_mod_cast fewer
      have fine : (0 : ℚ) < 2 ^ e := zpow_pos (by norm_num) e
      rw [value]
      nlinarith only [rational, fine]
    · have next : (2 ^ 52 + 1 : ℚ) ≤ n := by exact_mod_cast more
      have beyond : (2 ^ 52 + 1) * 2 ^ exponent x ≤ x :=
        (mul_le_mul_of_nonneg_right next power.le).trans_eq multiple.symm
      linarith

/-- From `2 ^ 53` on all values of the format are integers. -/
theorem exists_int_of_large {x : ℚ} (mem : x ∈ grid) (large : 2 ^ 53 ≤ x) : ∃ n : ℤ, x = n := by
  obtain ⟨m, e, bound, -, rfl⟩ := mem
  by_cases fraction : e < 0
  · have power : (2 : ℚ) ^ e ≤ 2 ^ (-1 : ℤ) := zpow_le_zpow_right₀ (by norm_num) (by omega)
    have mantissa : (m : ℚ) ≤ 2 ^ 53 := by exact_mod_cast (le_abs_self m).trans bound
    have positive : (0 : ℚ) < 2 ^ e := zpow_pos (by norm_num) e
    rw [zpow_neg_one] at power
    nlinarith only [power, mantissa, positive, large]
  · obtain ⟨j, rfl⟩ := Int.eq_ofNat_of_zero_le (not_lt.mp fraction)
    refine ⟨m * 2 ^ j, ?_⟩
    push_cast
    rfl

theorem exists_int_of_large_abs {x : ℚ} (mem : x ∈ grid) (large : 2 ^ 53 ≤ |x|) : ∃ n : ℤ, x = n := by
  rcases abs_choice x with positive | negative
  · rw [positive] at large
    exact exists_int_of_large mem large
  · rw [negative] at large
    obtain ⟨n, same⟩ := exists_int_of_large (neg_mem_grid mem) large
    refine ⟨-n, ?_⟩
    rw [Int.cast_neg, ← same, neg_neg]

theorem le_abs_of_floor {x : ℚ} {n : ℕ} (large : (n : ℤ) < |⌊x⌋|) : (n : ℚ) ≤ |x| := by
  rw [lt_abs] at large
  rcases large with above | below
  · have rational : ((n : ℤ) : ℚ) ≤ ⌊x⌋ := by exact_mod_cast above.le
    exact (rational.trans (Int.floor_le x)).trans (le_abs_self x)
  · have rational : ((n : ℤ) : ℚ) ≤ -(⌊x⌋ + 1) := by exact_mod_cast (by omega : (n : ℤ) ≤ -(⌊x⌋ + 1))
    refine (rational.trans ?_).trans (neg_le_abs x)
    linarith [Int.lt_floor_add_one x]

theorem exists_int_round (n : ℕ) : ∃ m : ℤ, round n = m := by
  by_cases small : n ≤ 2 ^ 53
  · have integer : |(n : ℤ)| ≤ 2 ^ 53 := by
      rw [Nat.abs_cast]
      exact_mod_cast small
    exact ⟨n, round_eq (by exact_mod_cast grid_int integer)⟩
  · have beyond : ((2 ^ 53 : ℤ) : ℚ) ≤ n := by exact_mod_cast (not_le.mp small).le
    have least := round_mono beyond
    rw [round_eq (grid_int (by norm_num))] at least
    exact exists_int_of_large (round_mem n) (by exact_mod_cast least)

/-- Rounding does not take a distance below one of the format. -/
theorem le_abs_round {x bound : ℚ} (mem : bound ∈ grid) (le : bound ≤ |x|) : bound ≤ |round x| := by
  have least := round_mono le
  rw [round_eq mem] at least
  rcases abs_choice x with positive | negative
  · rw [positive] at least
    exact least.trans (le_abs_self _)
  · rw [negative, round_neg] at least
    exact least.trans (neg_le_abs _)

/-- Nor above one of the format. -/
theorem abs_round_le {x bound : ℚ} (mem : bound ∈ grid) (le : |x| ≤ bound) : |round x| ≤ bound := by
  obtain ⟨lower, upper⟩ := abs_le.mp le
  have most := round_mono upper
  have least := round_mono lower
  rw [round_eq mem] at most
  rw [round_neg, round_eq mem] at least
  exact abs_le.mpr ⟨least, most⟩

theorem abs_mem_grid {x : ℚ} (mem : x ∈ grid) : |x| ∈ grid := by
  rcases abs_choice x with positive | negative
  · rw [positive]
    exact mem
  · rw [negative]
    exact neg_mem_grid mem

/-- What is much closer to a value than its neighbours are is rounded to it. -/
theorem round_eq_of_near {x y : ℚ} (mem : x ∈ grid) (positive : 0 < x) (near : 2 ^ 54 * |x - y| < x) : round y = x := by
  by_contra other
  have nearest := round_nearest y
  have closer := nearest.closest x mem
  have apart := le_distance mem nearest.mem positive other
  have triangle := abs_sub_le (round y) y x
  rw [abs_sub_comm y x] at triangle
  linarith

theorem sub_mem_of_multiple {m k e : ℤ} (bound : |m| ≤ 2 ^ 53) (subnormal : -1074 ≤ e)
    (lower : (k : ℚ) * 2 ^ e ≤ 2 * (m * 2 ^ e)) (upper : (m : ℚ) * 2 ^ e ≤ 2 * (k * 2 ^ e)) :
    (m : ℚ) * 2 ^ e - k * 2 ^ e ∈ grid := by
  have fine : (0 : ℚ) < 2 ^ e := zpow_pos (by norm_num) e
  refine ⟨m - k, e, ?_, subnormal, by push_cast; ring⟩
  have least : k ≤ 2 * m := by
    have scaled : (k : ℚ) ≤ 2 * m := by nlinarith only [lower, fine]
    exact_mod_cast scaled
  have most : m ≤ 2 * k := by
    have scaled : (m : ℚ) ≤ 2 * k := by nlinarith only [upper, fine]
    exact_mod_cast scaled
  rw [abs_le] at bound ⊢
  omega

/-- The difference of two values that are within a factor of two is one of the format. -/
theorem sub_mem_grid {x y : ℚ} (mem : x ∈ grid) (mem' : y ∈ grid) (lower : y ≤ 2 * x) (upper : x ≤ 2 * y) : x - y ∈ grid := by
  obtain ⟨m, e, bound, subnormal, rfl⟩ := mem
  obtain ⟨n, e', bound', subnormal', rfl⟩ := mem'
  rcases le_total e e' with finer | finer
  · obtain ⟨k, rewritten⟩ := @multiple_of_le n _ _ finer
    rw [rewritten] at lower upper ⊢
    exact sub_mem_of_multiple bound subnormal lower upper
  · obtain ⟨k, rewritten⟩ := @multiple_of_le m _ _ finer
    rw [rewritten] at lower upper ⊢
    rw [← neg_sub]
    exact neg_mem_grid (sub_mem_of_multiple bound' subnormal' upper lower)

namespace Number

def abs : Number → Number
  | .finite x => ofRat |x.value|
  | .infinity _ => .infinity false
  | .nan => .nan

theorem ofRat_cases (x : ℚ) :
    (∃ double : Double, ofRat x = .finite double ∧ double.value = Binary64.round x) ∨
      (∃ negative, ofRat x = .infinity negative) ∧ 2 ^ 1024 ≤ |Binary64.round x| := by
  unfold ofRat
  split
  · exact Or.inl ⟨_, rfl, rfl⟩
  · next unbounded => exact Or.inr ⟨⟨_, rfl⟩, not_lt.mp unbounded⟩

/-- The distance of two numbers is compared after it is rounded. -/
theorem less_abs_sub {x y bound : Double} :
    (finite bound).less (finite x - finite y).abs = false ↔ |Binary64.round (x.value - y.value)| ≤ bound.value := by
  have difference : finite x - finite y = ofRat (x.value - y.value) := rfl
  rw [difference]
  rcases ofRat_cases (x.value - y.value) with ⟨rounded, same, value⟩ | ⟨⟨negative, same⟩, large⟩
  · obtain ⟨double, exact, absolute⟩ := ofRat_is (abs_mem_grid rounded.mem) (by rw [abs_abs]; exact rounded.bounded)
    rw [same, abs, exact, less, absolute, value, decide_eq_false_iff_not, not_lt]
  · rw [same, abs, less]
    have small := (le_abs_self _).trans_lt bound.bounded
    exact ⟨nofun, fun near => absurd (large.trans near) (not_le.mpr small)⟩

theorem ofRat_ne_nan (x : ℚ) : ofRat x ≠ .nan := by
  rcases ofRat_cases x with ⟨double, same, -⟩ | ⟨⟨negative, same⟩, -⟩
  · rw [same]
    exact nofun
  · rw [same]
    exact nofun

def isFinite : Number → Bool
  | .finite _ => true
  | _ => false

theorem isFinite_iff {a : Number} : a.isFinite ↔ ∃ x, a.Is x := by
  cases a with
  | finite double => exact iff_of_true rfl ⟨_, double, rfl, rfl⟩
  | infinity negative =>
    refine ⟨nofun, ?_⟩
    rintro ⟨_, _, same, -⟩
    cases same
  | nan =>
    refine ⟨nofun, ?_⟩
    rintro ⟨_, _, same, -⟩
    cases same

/-- Division does not leave the doubles. -/
theorem Is.divNat_is {a : Number} {x : ℚ} {n : ℕ} (is : a.Is x) (positive : 0 < n) : (a.divNat n).Is (Binary64.round (x / n)) := by
  obtain ⟨double, rfl, rfl⟩ := is
  have smaller : |double.value / n| ≤ |double.value| := by
    rw [abs_div, Nat.abs_cast]
    exact div_le_self (abs_nonneg _) (by exact_mod_cast positive)
  have bounded := (abs_round_le (abs_mem_grid double.mem) smaller).trans_lt double.bounded
  exact ⟨⟨_, round_mem _, bounded⟩, dif_pos bounded, rfl⟩

/-- A double rounded down is finite again. -/
theorem Is.floor_is {a : Number} {x : ℚ} (is : a.Is x) : a.floor.Is ⌊x⌋ := by
  obtain ⟨double, rfl, rfl⟩ := is
  by_cases small : |⌊double.value⌋| ≤ 2 ^ 53
  · exact ofInt_is small
  · have whole : ((⌊double.value⌋ : ℤ) : ℚ) = double.value := by
      obtain ⟨n, same⟩ := exists_int_of_large_abs double.mem (le_abs_of_floor (not_le.mp small))
      rw [same, Int.floor_intCast]
    have finite := ofRat_is double.mem double.bounded
    rwa [← whole] at finite

/-- Rounded to a finite number, a result is that number. -/
theorem ofRat_eq {y : ℚ} {x : Double} (same : Binary64.round y = x.value) : ofRat y = .finite x := by
  have bounded := x.bounded
  rw [← same] at bounded
  rw [ofRat, dif_pos bounded]
  congr

end Number

/-- The distance of two numbers, rounded as all differences are, is at most this. -/
def Within (x : Double) (y : Number) (bound : Double) : Prop := ∃ value, y.Is value ∧ |round (x.value - value)| ≤ bound.value

section distance

variable {x bound : Double} {y : Number}

theorem less_abs_sub_iff (number : y ≠ .nan) : (Number.finite bound).less (.finite x - y).abs = false ↔ Within x y bound := by
  cases y with
  | nan => exact absurd rfl number
  | infinity negative =>
    refine ⟨nofun, ?_⟩
    rintro ⟨_, ⟨_, finite, -⟩, -⟩
    cases finite
  | finite y =>
    rw [Number.less_abs_sub]
    constructor
    · exact fun near => ⟨y.value, ⟨y, rfl, rfl⟩, near⟩
    · rintro ⟨_, ⟨_, same, rfl⟩, near⟩
      cases same
      exact near

/-- The distance of integers is exact as far as it matters. -/
theorem Within.int {n t : ℤ} (within : Within x y bound) (first : x.value = n) (second : y.Is t) (small : bound.value < 2 ^ 53) :
    |(n : ℚ) - t| ≤ bound.value := by
  obtain ⟨_, ⟨double, finite, rfl⟩, near⟩ := within
  obtain ⟨_, finite', whole⟩ := second
  rw [finite] at finite'
  cases finite'
  rw [first, whole, ← Int.cast_sub] at near
  rw [← Int.cast_sub]
  by_cases exact : |n - t| ≤ 2 ^ 53
  · rwa [round_eq (grid_int exact)] at near
  · have large : (2 ^ 53 : ℚ) ≤ |((n - t : ℤ) : ℚ)| := by exact_mod_cast (not_le.mp exact).le
    have least : (2 ^ 53 : ℚ) ∈ grid := ⟨2 ^ 53, 0, by norm_num, by norm_num, by norm_num⟩
    exact absurd (le_abs_round least large) (not_le.mpr (near.trans_lt small))

theorem half_mem_grid {x : ℚ} (mem : x ∈ grid) (large : 1 ≤ x) : x / 2 ∈ grid := by
  obtain ⟨m, e, bound, subnormal, rfl⟩ := mem
  have positive : -53 ≤ e := by
    by_contra small
    have power : (2 : ℚ) ^ e ≤ 2 ^ (-54 : ℤ) := zpow_le_zpow_right₀ (by norm_num) (by omega)
    have mantissa : (m : ℚ) ≤ 2 ^ 53 := by exact_mod_cast (le_abs_self m).trans bound
    have fine : (0 : ℚ) < 2 ^ e := zpow_pos (by norm_num) e
    have value : (m : ℚ) * 2 ^ e ≤ 2 ^ 53 * 2 ^ (-54 : ℤ) := mul_le_mul mantissa power fine.le (by norm_num)
    norm_num at value
    linarith
  refine ⟨m, e - 1, bound, by omega, ?_⟩
  rw [zpow_sub_one₀ (by norm_num)]
  ring

/-- The distance from a number beyond twice the bound is exact as far as it matters. -/
theorem within_iff (large : 1 ≤ x.value) (beyond : 2 * bound.value < x.value) :
    Within x y bound ↔ ∃ value, y.Is value ∧ |x.value - value| ≤ bound.value := by
  refine exists_congr fun value => and_congr_right ?_
  rintro ⟨y, -, rfl⟩
  by_cases close : y.value ≤ 2 * x.value ∧ x.value ≤ 2 * y.value
  · rw [round_eq (sub_mem_grid x.mem y.mem close.1 close.2)]
  · have apart : x.value / 2 ≤ |x.value - y.value| := by
      rw [le_abs]
      by_contra near
      apply close
      constructor
      · linarith [not_le.mp fun above => near (Or.inr above)]
      · linarith [not_le.mp fun above => near (Or.inl above)]
    have apart' := le_abs_round (half_mem_grid x.mem large) apart
    exact iff_of_false (by linarith) (by linarith)

end distance

theorem exponent_le {x : ℚ} {k : ℤ} (nonzero : x ≠ 0) (below : |x| < 2 ^ k) (normal : -1021 ≤ k) : exponent x ≤ k - 53 := by
  have log : Int.log 2 |x| < k := by
    refine (Int.lt_zpow_iff_log_lt (by norm_num) (abs_pos.mpr nonzero)).mp ?_
    exact_mod_cast below
  unfold exponent
  omega

/-- Below a power of two rounding moves a value by half a unit at most. -/
theorem round_error {x : ℚ} {k : ℤ} (below : |x| < 2 ^ k) (normal : -1021 ≤ k) : |round x - x| ≤ 2 ^ (k - 54) := by
  rcases eq_or_ne x 0 with rfl | nonzero
  · rw [round_eq ⟨0, 0, by norm_num, by norm_num, by norm_num⟩, sub_self, abs_zero]
    exact (zpow_pos (by norm_num) _).le
  · have half := roundHalfEven_half (x / 2 ^ exponent x)
    have unit : (2 : ℚ) ^ exponent x ≤ 2 ^ (k - 53) := zpow_le_zpow_right₀ (by norm_num) (exponent_le nonzero below normal)
    have scaled : round x - x = (roundHalfEven (x / 2 ^ exponent x) - x / 2 ^ exponent x) * 2 ^ exponent x := by
      rw [round, sub_mul, div_mul_cancel₀ x (exponent_pos x).ne']
    calc |round x - x| = |(roundHalfEven (x / 2 ^ exponent x) : ℚ) - x / 2 ^ exponent x| * 2 ^ exponent x := by
          rw [scaled, abs_mul, abs_of_pos (exponent_pos x)]
      _ ≤ 1 / 2 * 2 ^ (k - 53) := mul_le_mul half unit (exponent_pos x).le (by norm_num)
      _ = 2 ^ (k - 54) := by
          rw [show k - 53 = k - 54 + 1 by ring, zpow_add_one₀ (by norm_num)]
          ring

/-- `roundHalfEven` of a fraction. -/
def roundDiv (a b : ℕ) : ℕ :=
  if 2 * (a % b) < b ∨ 2 * (a % b) = b ∧ a / b % 2 = 0 then a / b else a / b + 1

theorem roundHalfEven_div (a : ℕ) {b : ℕ} (positive : 0 < b) : roundHalfEven ((a : ℚ) / b) = roundDiv a b := by
  have divisor : (0 : ℚ) < b := by exact_mod_cast positive
  have floor : ⌊(a : ℚ) / b⌋ = (a / b : ℕ) := by
    rw [← Rat.natFloor_natCast_div_natCast]
    exact (Int.natCast_floor_eq_floor (by positivity)).symm
  have rest : (a : ℚ) / b - (a / b : ℕ) = (a % b : ℕ) / b := by
    have parts : (a : ℚ) = b * (a / b : ℕ) + (a % b : ℕ) := by exact_mod_cast (Nat.div_add_mod a b).symm
    field_simp
    linarith
  have below : (a % b : ℕ) / (b : ℚ) < 1 / 2 ↔ 2 * (a % b) < b := by
    rw [div_lt_div_iff₀ divisor (by norm_num), mul_comm, one_mul]
    exact_mod_cast Iff.rfl
  have above : 1 / 2 < (a % b : ℕ) / (b : ℚ) ↔ b < 2 * (a % b) := by
    rw [div_lt_div_iff₀ (by norm_num) divisor, mul_comm _ (2 : ℚ), one_mul]
    exact_mod_cast Iff.rfl
  have even : Even ((a / b : ℕ) : ℤ) ↔ a / b % 2 = 0 := by
    rw [Int.even_coe_nat, Nat.even_iff]
  simp only [roundHalfEven, floor, Int.cast_natCast, rest, below, above, even, roundDiv]
  split_ifs <;> first | rfl | omega

/-- How a fraction is rounded whose leading bit is `52 - s`. -/
theorem round_div {a b s : ℕ} (lower : 2 ^ 52 * b ≤ a * 2 ^ s) (upper : a * 2 ^ s < 2 ^ 53 * b) (normal : s ≤ 1074) :
    round ((a : ℚ) / b) = (roundDiv (a * 2 ^ s) b : ℚ) / 2 ^ s := by
  have positive : 0 < b := by
    by_contra zero
    rw [Nat.eq_zero_of_not_pos zero] at upper
    omega
  have divisor : (0 : ℚ) < b := by exact_mod_cast positive
  have shift : (2 : ℚ) ^ (-(s : ℤ)) = 1 / 2 ^ s := by rw [zpow_neg, zpow_natCast, one_div]
  have value : (0 : ℚ) < a / b := by
    refine div_pos ?_ divisor
    have nonzero : 0 < a := by
      by_contra zero
      rw [Nat.eq_zero_of_not_pos zero, Nat.zero_mul] at lower
      exact absurd lower (by omega)
    exact_mod_cast nonzero
  have log : Int.log 2 ((a : ℚ) / b) = 52 - s := by
    have least : ((2 : ℕ) : ℚ) ^ ((52 : ℤ) - s) ≤ a / b := by
      rw [sub_eq_add_neg, zpow_add₀ (by norm_num), Nat.cast_ofNat, shift, mul_one_div, div_le_div_iff₀ (by positivity) divisor]
      exact_mod_cast lower
    have most : (a : ℚ) / b < ((2 : ℕ) : ℚ) ^ ((53 : ℤ) - s) := by
      rw [sub_eq_add_neg, zpow_add₀ (by norm_num), Nat.cast_ofNat, shift, mul_one_div, div_lt_div_iff₀ divisor (by positivity)]
      exact_mod_cast upper
    have lowerLog := (Int.zpow_le_iff_le_log (by norm_num) value).mp least
    have upperLog := (Int.lt_zpow_iff_log_lt (by norm_num) value).mp most
    omega
  have unit : exponent ((a : ℚ) / b) = -s := by
    rw [exponent, abs_of_pos value, log]
    omega
  have scaled : (a : ℚ) / b / (1 / 2 ^ s) = ((a * 2 ^ s : ℕ) : ℚ) / b := by
    push_cast
    field_simp
  rw [round, unit, shift, scaled, roundHalfEven_div _ positive, Int.cast_natCast, mul_one_div]

/-- A result that is not too large is the rounded one. -/
theorem Number.ofRat_rounded {x : ℚ} (small : |x| ≤ 2 ^ 53) : (ofRat x).Is (Binary64.round x) := by
  have mem : (2 : ℚ) ^ 53 ∈ grid := by exact_mod_cast natCast_mem_grid (n := 2 ^ 53) le_rfl
  have bounded := (abs_round_le mem small).trans_lt (pow_lt_pow_right₀ (show (1 : ℚ) < 2 by norm_num) (show 53 < 1024 by norm_num))
  exact ⟨⟨_, round_mem x, bounded⟩, dif_pos bounded, rfl⟩

end Binary64
