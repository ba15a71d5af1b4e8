import FoodDelivery.Review.SubmitReview

namespace FoodDelivery.ReviewService

open Binary64 hiding round

/-- The average in hundredths, halves rounded up. -/
def hundredths (sum count : Nat) : Nat := (200 * sum + count) / (2 * count)

/-- The number that comes closest to the average of two decimals. -/
def roundedAverage (sum count : Nat) : Number := .ofRat (hundredths sum count / 100 : ℚ)

/-- What the repository makes of the average, in hundredths. -/
def computedHundredths (sum count : Nat) : ℤ := ⌊Binary64.round (Binary64.round (Numeric.divide sum count) * 100) + 1 / 2⌋

/-- The averages half-way between two hundredths, in thousandths, whose number
times 100 falls below the half. -/
def misrounded : List Nat :=
  [1005, 1015, 1025, 1035, 1255, 1265, 1275, 2135, 2155, 2175, 2195, 2385, 2405, 2425, 2445, 4015, 4145, 4185, 4225,
    4265, 4395, 4435, 4475, 4515, 4645, 4685, 4725, 4765, 4895, 4935, 4975]

def Misrounded (sum count : Nat) : Prop := 0 < count ∧ ∃ thousandths ∈ misrounded, 1000 * sum = thousandths * count

instance (sum count : Nat) : Decidable (Misrounded sum count) := inferInstanceAs (Decidable (_ ∧ ∃ _ ∈ misrounded, _))

/-- Ratings from 1 to 5, at least one, and no more than review_count can hold. -/
structure Rated (sum count : Nat) : Prop where
  some : 0 < count
  least : count ≤ sum
  most : sum ≤ 5 * count
  few : count < 2 ^ 31

section computed

variable {sum count : Nat}

theorem Rated.average (rated : Rated sum count) : 1 ≤ (sum / count : ℚ) ∧ (sum / count : ℚ) ≤ 5 := by
  have divisor : (0 : ℚ) < count := by exact_mod_cast rated.some
  rw [le_div_iff₀ divisor, div_le_iff₀ divisor, one_mul]
  exact ⟨by exact_mod_cast rated.least, by exact_mod_cast rated.most⟩

theorem Rated.divide_near (rated : Rated sum count) : |Numeric.divide sum count - sum / count| ≤ 1 / 2251799813685248 := by
  refine (Numeric.divide_close (Nat.lt_of_lt_of_le rated.some rated.least) rated.some).trans ?_
  rw [div_le_div_iff₀ (by norm_num) (by norm_num)]
  linarith [rated.average.2]

theorem Rated.number_near (rated : Rated sum count) :
    |Binary64.round (Numeric.divide sum count) - sum / count| ≤ 1 / 1125899906842624 := by
  obtain ⟨least, most⟩ := rated.average
  have numeric := abs_le.mp rated.divide_near
  have below : |Numeric.divide sum count| < 2 ^ (3 : ℤ) := by
    rw [abs_lt]
    norm_num at numeric ⊢
    constructor <;> linarith
  have number := round_error below (by norm_num)
  norm_num at number
  rw [abs_le] at number ⊢
  constructor <;> linarith

theorem Rated.number_le (rated : Rated sum count) : |Binary64.round (Numeric.divide sum count)| ≤ 51 / 10 := by
  obtain ⟨least, most⟩ := rated.average
  have near := abs_le.mp rated.number_near
  rw [abs_le]
  constructor <;> linarith

/-- What the numeric, its number and the product with 100 lose together. -/
theorem Rated.close (rated : Rated sum count) :
    |Binary64.round (Binary64.round (Numeric.divide sum count) * 100) - sum / count * 100| < 1 / (2 * count) := by
  have divisor : (0 : ℚ) < count := by exact_mod_cast rated.some
  have number := abs_le.mp rated.number_near
  have product : |Binary64.round (Numeric.divide sum count) * 100| < 2 ^ (9 : ℤ) := by
    rw [abs_mul]
    norm_num
    linarith [rated.number_le]
  have rounded := round_error product (by norm_num)
  norm_num at rounded
  have few : (2 : ℚ) * count ≤ 4294967296 := by
    have fits := rated.few
    exact_mod_cast (show 2 * count ≤ 4294967296 by omega)
  have gap : (1 : ℚ) / 4294967296 ≤ 1 / (2 * count) := one_div_le_one_div_of_le (by positivity) few
  refine lt_of_lt_of_le ?_ gap
  rw [abs_le] at rounded
  rw [abs_lt]
  constructor <;> linarith

/-- Between the halves what is lost does not count. -/
theorem Rated.computed_between (rated : Rated sum count) (between : (200 * sum + count) % (2 * count) ≠ 0) :
    computedHundredths sum count = hundredths sum count := by
  have divisor : (0 : ℚ) < count := by exact_mod_cast rated.some
  have close := abs_lt.mp rated.close
  have parts : (2 * count : ℚ) * hundredths sum count + ((200 * sum + count) % (2 * count) : ℕ) = 200 * sum + count := by
    exact_mod_cast Nat.div_add_mod (200 * sum + count) (2 * count)
  have least : (1 : ℚ) ≤ ((200 * sum + count) % (2 * count) : ℕ) := by exact_mod_cast Nat.pos_of_ne_zero between
  have most : (((200 * sum + count) % (2 * count) : ℕ) : ℚ) + 1 ≤ 2 * count := by
    exact_mod_cast Nat.mod_lt (200 * sum + count) (Nat.mul_pos (by norm_num) rated.some)
  have average : (sum / count * 100 : ℚ) + 1 / 2 =
      hundredths sum count + ((200 * sum + count) % (2 * count) : ℕ) * (1 / (2 * count)) := by
    field_simp
    linarith
  have unit : (2 * count : ℚ) * (1 / (2 * count)) = 1 := mul_one_div_cancel (by positivity)
  have positive : (0 : ℚ) < 1 / (2 * count) := by positivity
  have lower := mul_le_mul_of_nonneg_right least positive.le
  have upper := mul_le_mul_of_nonneg_right most positive.le
  rw [computedHundredths, Int.floor_eq_iff, Int.cast_natCast]
  constructor <;> linarith

/-- The bits behind the point of the number nearest to an average of so many
half hundredths, and of the product with 100. -/
def averageBits (halves : Nat) : Nat := if halves < 400 then 52 else if halves < 800 then 51 else 50

def productBits (halves : Nat) : Nat := if halves < 256 then 46 else if halves < 512 then 45 else 44

def averageMantissa (halves : Nat) : Nat := roundDiv (halves * 2 ^ averageBits halves) 200

def productMantissa (halves : Nat) : Nat :=
  roundDiv (averageMantissa halves * 100 * 2 ^ productBits halves) (2 ^ averageBits halves)

/-- The mantissas are as long as those of normal numbers. -/
structure Normal (halves : Nat) : Prop where
  average : 2 ^ 52 * 200 ≤ halves * 2 ^ averageBits halves ∧ halves * 2 ^ averageBits halves < 2 ^ 53 * 200
  product : 2 ^ 52 * 2 ^ averageBits halves ≤ averageMantissa halves * 100 * 2 ^ productBits halves ∧
    averageMantissa halves * 100 * 2 ^ productBits halves < 2 ^ 53 * 2 ^ averageBits halves

instance (halves : Nat) : Decidable (Normal halves) :=
  decidable_of_iff ((_ ∧ _) ∧ _ ∧ _) ⟨fun both => ⟨both.1, both.2⟩, fun normal => ⟨normal.average, normal.product⟩⟩

/-- Every half between two hundredths from 1 to 5. -/
theorem halves_rounded : ∀ n ∈ List.range' 101 400, Normal (2 * n - 1) ∧
    ((2 * productMantissa (2 * n - 1) + 2 ^ productBits (2 * n - 1)) / 2 ^ (productBits (2 * n - 1) + 1) = n ↔
      10 * n - 5 ∉ misrounded) := by
  decide +kernel

theorem bits_le (halves : Nat) : averageBits halves ≤ 1074 ∧ productBits halves ≤ 1074 := by
  unfold averageBits productBits
  constructor <;> split_ifs <;> omega

theorem Rated.computed_half {halves : Nat} (rated : Rated sum count) (normal : Normal halves) (half : 200 * sum = halves * count) :
    computedHundredths sum count =
      ((2 * productMantissa halves + 2 ^ productBits halves) / 2 ^ (productBits halves + 1) : Nat) := by
  have divisor : (0 : ℚ) < count := by exact_mod_cast rated.some
  have average : (sum / count : ℚ) = (halves : ℚ) / (200 : Nat) := by
    rw [div_eq_div_iff divisor.ne' (by norm_num), mul_comm]
    exact_mod_cast half
  have text : Numeric.divide sum count = (halves : ℚ) / (200 : Nat) := by
    have scale := Numeric.le_divScale (Nat.lt_of_lt_of_le rated.some rated.least) rated.some (by linarith [rated.average.2])
    have whole : (sum / count : ℚ) * 10 ^ 3 = (5 * halves : Nat) := by
      rw [average]
      push_cast
      ring
    rw [Numeric.divide_exact (le_trans (by norm_num) scale) whole, average]
  have number := round_div normal.average.1 normal.average.2 (bits_le halves).1
  have scaled : (averageMantissa halves : ℚ) / 2 ^ averageBits halves * 100 =
      ((averageMantissa halves * 100 : Nat) : ℚ) / ((2 ^ averageBits halves : Nat) : ℚ) := by
    push_cast
    ring
  have product := round_div normal.product.1 normal.product.2 (bits_le halves).2
  have sum : (productMantissa halves : ℚ) / 2 ^ productBits halves + 1 / 2 =
      ((2 * productMantissa halves + 2 ^ productBits halves : Nat) : ℚ) / ((2 ^ (productBits halves + 1) : Nat) : ℚ) := by
    push_cast
    rw [pow_succ]
    field_simp
  rw [← averageMantissa] at number
  rw [← scaled, ← productMantissa] at product
  rw [computedHundredths, text, number, product, sum, Rat.floor_natCast_div_natCast]
  rfl

/-- The numbers of two amounts of hundredths differ. -/
theorem ofRat_hundredths {n m : ℤ} (small : |n| ≤ 500) (small' : |m| ≤ 500)
    (same : Number.ofRat (n / 100 : ℚ) = Number.ofRat (m / 100 : ℚ)) : n = m := by
  have near (k : ℤ) (small : |k| ≤ 500) : |Binary64.round (k / 100 : ℚ) - k / 100| ≤ 1 / 1000 := by
    have bound : |(k : ℚ)| ≤ 500 := by exact_mod_cast small
    have below : |(k / 100 : ℚ)| < 2 ^ (3 : ℤ) := by
      rw [abs_div]
      norm_num
      linarith
    have error := round_error below (by norm_num)
    norm_num at error ⊢
    linarith
  have is (k : ℤ) (small : |k| ≤ 500) : (Number.ofRat (k / 100 : ℚ)).Is (Binary64.round (k / 100)) := by
    refine Number.ofRat_rounded ?_
    have bound : |(k : ℚ)| ≤ 500 := by exact_mod_cast small
    rw [abs_div]
    norm_num
    linarith
  have values := (is n small).unique (same ▸ is m small')
  have first := abs_le.mp (near n small)
  have second := abs_le.mp (near m small')
  rw [values] at first
  have close : |(n : ℚ) - m| < 1 := by
    rw [abs_lt]
    constructor <;> linarith
  have integers : |n - m| < 1 := by exact_mod_cast close
  have zero := Int.abs_lt_one_iff.mp integers
  omega

theorem Rated.computed_le (rated : Rated sum count) : |computedHundredths sum count| ≤ 500 := by
  obtain ⟨least, most⟩ := rated.average
  have close := abs_lt.mp rated.close
  have gap : (1 : ℚ) / (2 * count) ≤ 1 / 2 := by
    refine one_div_le_one_div_of_le (by norm_num) ?_
    have positive : (1 : ℚ) ≤ count := by exact_mod_cast rated.some
    linarith
  have lower : (0 : ℤ) ≤ computedHundredths sum count := Int.floor_nonneg.mpr (by linarith)
  have upper : computedHundredths sum count < 501 := by
    refine Int.floor_lt.mpr ?_
    norm_num
    linarith
  rw [abs_of_nonneg lower]
  omega

/-- The rating that a restaurant is given. -/
theorem Rated.rating (rated : Rated sum count) :
    (Number.ofRat (Numeric.divide sum count) * 100).roundHalfUp.divNat 100 = .ofRat (computedHundredths sum count / 100 : ℚ) := by
  have small : |Numeric.divide sum count| ≤ 2 ^ 53 := by
    obtain ⟨least, most⟩ := rated.average
    have near := abs_le.mp rated.divide_near
    rw [abs_le]
    constructor <;> linarith
  have hundred : (100 : Number).Is (100 : Nat) := Number.ofNat_is (by norm_num)
  have product := (Number.ofRat_rounded small).mul hundred
  have large : |Binary64.round (Numeric.divide sum count) * 100| ≤ 2 ^ 53 := by
    rw [abs_mul]
    norm_num
    linarith [rated.number_le]
  have whole := Number.ofInt_is (rated.computed_le.trans (by norm_num))
  rw [product, Nat.cast_ofNat, (Number.ofRat_rounded large).roundHalfUp, ← computedHundredths, whole.divNat, Nat.cast_ofNat]

/-- Half-way between two hundredths the list tells. -/
theorem Rated.computed_half_iff (rated : Rated sum count) (half : 2 * count * hundredths sum count = 200 * sum + count) :
    computedHundredths sum count = hundredths sum count ↔ ¬ Misrounded sum count := by
  have positive := rated.some
  have least := rated.least
  have most := rated.most
  have lower : 100 < hundredths sum count := by
    refine Nat.lt_of_mul_lt_mul_left (a := 2 * count) ?_
    omega
  have upper : hundredths sum count < 501 := by
    refine Nat.lt_of_mul_lt_mul_left (a := 2 * count) ?_
    omega
  obtain ⟨normal, listed⟩ := halves_rounded (hundredths sum count) (List.mem_range'_1.mpr ⟨lower, upper⟩)
  have halves : 200 * sum = (2 * hundredths sum count - 1) * count := by
    rw [Nat.sub_mul, Nat.mul_right_comm, half]
    omega
  have thousandths : 1000 * sum = (10 * hundredths sum count - 5) * count := by
    have five : 10 * hundredths sum count - 5 = 5 * (2 * hundredths sum count - 1) := by omega
    rw [five, Nat.mul_assoc, ← halves]
    omega
  rw [rated.computed_half normal halves, Nat.cast_inj, listed]
  refine not_congr ⟨fun member => ⟨positive, _, member, thousandths⟩, ?_⟩
  rintro ⟨-, other, member, same⟩
  rwa [Nat.eq_of_mul_eq_mul_right positive (thousandths.symm.trans same)]

theorem not_misrounded (between : (200 * sum + count) % (2 * count) ≠ 0) : ¬ Misrounded sum count := by
  rintro ⟨-, thousandths, listed, same⟩
  have halves : ∀ thousandths ∈ misrounded, thousandths % 10 = 5 := by decide
  have digit := halves thousandths listed
  obtain ⟨n, tens⟩ : ∃ n, thousandths = 10 * n + 5 := ⟨thousandths / 10, by omega⟩
  refine between (Nat.mod_eq_zero_of_dvd ⟨n + 1, ?_⟩)
  rw [tens, Nat.add_mul, Nat.mul_assoc] at same
  rw [Nat.mul_add, Nat.mul_one, Nat.mul_assoc, Nat.mul_comm count n]
  omega

/-- The rating is the average of two decimals except for the listed averages. -/
theorem Rated.rating_eq_iff (rated : Rated sum count) :
    (Number.ofRat (Numeric.divide sum count) * 100).roundHalfUp.divNat 100 = roundedAverage sum count ↔
      ¬ Misrounded sum count := by
  have bound : hundredths sum count ≤ 500 := by
    refine Nat.le_of_lt_succ ((Nat.div_lt_iff_lt_mul (Nat.mul_pos (by norm_num) rated.some)).mpr ?_)
    have most := rated.most
    have some := rated.some
    omega
  have amounts : Number.ofRat (computedHundredths sum count / 100 : ℚ) = roundedAverage sum count ↔
      computedHundredths sum count = hundredths sum count := by
    constructor
    · intro same
      refine ofRat_hundredths rated.computed_le (by simpa using bound) (same.trans ?_)
      simp [roundedAverage]
    · intro same
      rw [same, roundedAverage, Int.cast_natCast]
  rw [rated.rating, amounts]
  by_cases half : (200 * sum + count) % (2 * count) = 0
  · have whole := Nat.div_add_mod (200 * sum + count) (2 * count)
    rw [half, Nat.add_zero, ← hundredths] at whole
    exact rated.computed_half_iff whole
  · exact iff_of_true (rated.computed_between half) (not_misrounded half)

/-- Twenty-one ratings of 4 and nineteen of 5: 4.475 becomes 4.47. -/
example : Misrounded 179 40 := by decide

end computed

end FoodDelivery.ReviewService
