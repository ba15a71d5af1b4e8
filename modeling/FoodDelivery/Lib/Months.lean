import FoodDelivery.Lib.IsoTime

namespace CivilDate

/-- The months of the calendar, counted from January of the year 0. -/
def monthOf (days : Nat) : Nat := 12 * (ofDays days).year + ((ofDays days).month - 1)

def firstOf (month : Nat) : CivilDate where
  year := month / 12
  month := month % 12 + 1
  day := 1

/-- The day, counted from 1970-01-01, on which a month begins. -/
def monthStart (month : Nat) : Int := (firstOf month).toDays

/-- Counted from March, the months of a year before the last have 30 or 31 days in turn. -/
theorem monthStart_march (month : Nat) :
    monthStart (month + 2) =
      ((146097 * (month / 12 / 400) + daysBeforeYear (month / 12 % 400) + daysBeforeMonth (month % 12) : Nat) : Int) - 719468 := by
  have sameYear : (month + 2) / 12 - (14 - ((month + 2) % 12 + 1)) / 12 = month / 12 := by omega
  have sameMonth : ((month + 2) % 12 + 1 + 9) % 12 = month % 12 := by omega
  simp only [monthStart, firstOf, toDays, sameYear, sameMonth]
  omega

theorem daysBeforeYear_succ (year : Nat) : daysBeforeYear year + 365 ≤ daysBeforeYear (year + 1) := by
  unfold daysBeforeYear
  omega

theorem monthStart_lt_succ {month : Nat} (after : 2 ≤ month) : monthStart month < monthStart (month + 1) := by
  obtain ⟨march, rfl⟩ : ∃ march, month = march + 2 := ⟨month - 2, by omega⟩
  rw [show march + 2 + 1 = march + 1 + 2 by omega, monthStart_march, monthStart_march]
  by_cases last : march % 12 = 11
  · have next : (march + 1) % 12 = 0 := by omega
    have year : (march + 1) / 12 = march / 12 + 1 := by omega
    rw [last, next, year]
    have longer := daysBeforeYear_succ (march / 12 % 400)
    by_cases era : march / 12 % 400 = 399
    · have nextEra : (march / 12 + 1) % 400 = 0 := by omega
      have eras : (march / 12 + 1) / 400 = march / 12 / 400 + 1 := by omega
      rw [era, nextEra, eras]
      simp only [daysBeforeYear, daysBeforeMonth]
      omega
    · have nextYear : (march / 12 + 1) % 400 = march / 12 % 400 + 1 := by omega
      have eras : (march / 12 + 1) / 400 = march / 12 / 400 := by omega
      rw [nextYear, eras]
      simp only [daysBeforeMonth]
      omega
  · have next : (march + 1) % 12 = march % 12 + 1 := by omega
    have year : (march + 1) / 12 = march / 12 := by omega
    rw [next, year]
    simp only [daysBeforeMonth]
    omega

theorem monthStart_le {first last : Nat} (after : 2 ≤ first) (le : first ≤ last) : monthStart first ≤ monthStart last := by
  induction le with
  | refl => exact Int.le_refl _
  | @step last le ih => exact Int.le_trans ih (Int.le_of_lt (monthStart_lt_succ (Nat.le_trans after le)))

/-- A day belongs to the year of its era whose days have not all passed. -/
theorem lt_daysBeforeYear_succ {dayOfEra : Nat} (bound : dayOfEra < 146097) (inside : yearOfEra dayOfEra < 399) :
    dayOfEra < daysBeforeYear (yearOfEra dayOfEra + 1) := by
  have inCentury := dayOfCentury_lt bound
  have whole := century_add_dayOfCentury dayOfEra
  have years := yearOfFour_lt (dayOfCentury dayOfEra % 1461)
  have few : century dayOfEra ≤ 3 := min_le_right _ _
  have short : century dayOfEra < 3 → dayOfCentury dayOfEra < 36524 := by
    unfold dayOfCentury century
    omega
  have inYear : dayOfCentury dayOfEra % 1461 < 365 * (yearOfFour (dayOfCentury dayOfEra % 1461) + 1) ∨
      yearOfFour (dayOfCentury dayOfEra % 1461) = 3 := by
    unfold yearOfFour
    omega
  have fours : dayOfCentury dayOfEra / 1461 < 25 := by omega
  unfold yearOfEra at inside ⊢
  generalize yearOfFour (dayOfCentury dayOfEra % 1461) = year at *
  generalize dayOfCentury dayOfEra = day at *
  generalize century dayOfEra = hundreds at *
  obtain ⟨four, rest, split, inFour⟩ : ∃ four rest, day = 1461 * four + rest ∧ rest < 1461 :=
    ⟨day / 1461, day % 1461, (Nat.div_add_mod ..).symm, Nat.mod_lt _ (by omega)⟩
  have quotient : day / 1461 = four := by omega
  have remainder : day % 1461 = rest := by omega
  rw [quotient] at inside fours ⊢
  rw [remainder] at inYear
  by_cases last : year = 3
  · by_cases lastFour : four = 24
    · have next := @daysBeforeYear_add (hundreds + 1) 0 0 (by omega) (by omega)
      have inside' := short (by omega)
      rw [last, lastFour, show 100 * hundreds + 4 * 24 + 3 + 1 = 100 * (hundreds + 1) + 4 * 0 + 0 by omega, next]
      omega
    · have next := @daysBeforeYear_add hundreds (four + 1) 0 (by omega) (by omega)
      rw [last, show 100 * hundreds + 4 * four + 3 + 1 = 100 * hundreds + 4 * (four + 1) + 0 by omega, next]
      clear bound next
      omega
  · have next := @daysBeforeYear_add hundreds four (year + 1) fours (by omega)
    have inYear' := inYear.resolve_right last
    rw [show 100 * hundreds + 4 * four + year + 1 = 100 * hundreds + 4 * four + (year + 1) by omega, next]
    clear bound next
    omega

theorem monthOf_eq (days : Nat) : monthOf days =
    12 * (400 * ((days + 719468) / 146097) + yearOfEra ((days + 719468) % 146097)) +
      monthOfYear (dayOfYear ((days + 719468) % 146097)) + 2 := by
  simp only [monthOf, ofDays]
  omega

/-- A day lies in its month. -/
theorem monthOf_spec (days : Nat) : monthStart (monthOf days) ≤ days ∧ (days : Int) < monthStart (monthOf days + 1) := by
  have inEra := dayOfEra_lt days
  have year := yearOfEra_lt inEra
  obtain ⟨whole, ofYear⟩ := daysBeforeYear_yearOfEra inEra
  have before := daysBeforeMonth_le (dayOfYear ((days + 719468) % 146097))
  have month := monthOfYear_lt ofYear
  have parts := Nat.div_add_mod (days + 719468) 146097
  have later := @lt_daysBeforeYear_succ _ inEra
  rw [monthOf_eq]
  generalize (days + 719468) % 146097 = dayOfEra at *
  generalize (days + 719468) / 146097 = era at *
  generalize yearOfEra dayOfEra = ofEra at *
  have sameMonth : (12 * (400 * era + ofEra) + monthOfYear (dayOfYear dayOfEra)) % 12 = monthOfYear (dayOfYear dayOfEra) := by omega
  have sameYear : (12 * (400 * era + ofEra) + monthOfYear (dayOfYear dayOfEra)) / 12 = 400 * era + ofEra := by omega
  constructor
  · rw [monthStart_march, sameMonth, sameYear, Nat.mul_add_mod, Nat.mod_eq_of_lt year, Nat.mul_add_div (by omega),
      Nat.div_eq_of_lt year]
    omega
  · rw [show ∀ n, n + 2 + 1 = n + 1 + 2 by omega, monthStart_march]
    by_cases last : monthOfYear (dayOfYear dayOfEra) = 11
    · have next : (12 * (400 * era + ofEra) + monthOfYear (dayOfYear dayOfEra) + 1) % 12 = 0 := by omega
      have nextYear : (12 * (400 * era + ofEra) + monthOfYear (dayOfYear dayOfEra) + 1) / 12 = 400 * era + (ofEra + 1) := by omega
      rw [next, nextYear]
      by_cases final : ofEra = 399
      · rw [final, show 400 * era + (399 + 1) = 400 * (era + 1) + 0 by omega, Nat.mul_add_mod, Nat.mul_add_div (by omega)]
        simp only [daysBeforeMonth, Nat.zero_mod]
        omega
      · have inside := later (by omega)
        rw [Nat.mul_add_mod, Nat.mod_eq_of_lt (by omega : ofEra + 1 < 400), Nat.mul_add_div (by omega),
          Nat.div_eq_of_lt (by omega : ofEra + 1 < 400)]
        omega
    · have next : (12 * (400 * era + ofEra) + monthOfYear (dayOfYear dayOfEra) + 1) % 12 =
          monthOfYear (dayOfYear dayOfEra) + 1 := by omega
      have sameYear' : (12 * (400 * era + ofEra) + monthOfYear (dayOfYear dayOfEra) + 1) / 12 = 400 * era + ofEra := by omega
      rw [next, sameYear', Nat.mul_add_mod, Nat.mod_eq_of_lt year, Nat.mul_add_div (by omega), Nat.div_eq_of_lt year]
      unfold monthOfYear daysBeforeMonth at *
      omega

theorem two_le_monthOf (days : Nat) : 2 ≤ monthOf days := by
  rw [monthOf_eq]
  omega

/-- The months of the calendar tile its days. -/
theorem monthOf_eq_iff {days month : Nat} (after : 2 ≤ month) :
    monthOf days = month ↔ monthStart month ≤ days ∧ (days : Int) < monthStart (month + 1) := by
  constructor
  · rintro rfl
    exact monthOf_spec days
  · rintro ⟨lower, upper⟩
    have first := two_le_monthOf days
    obtain ⟨lower', upper'⟩ := monthOf_spec days
    rcases Nat.lt_trichotomy (monthOf days) month with earlier | same | later
    · have bound := @monthStart_le (monthOf days + 1) month (by omega) earlier
      omega
    · exact same
    · have bound := @monthStart_le (month + 1) (monthOf days) (by omega) later
      omega

theorem monthOf_mono {first last : Nat} (le : first ≤ last) : monthOf first ≤ monthOf last := by
  by_contra later
  have after := two_le_monthOf last
  have bound := @monthStart_le (monthOf last + 1) (monthOf first) (by omega) (by omega)
  have lower := (monthOf_spec first).1
  have upper := (monthOf_spec last).2
  omega

theorem monthStart_nonneg {month : Nat} (after : 12 * 1970 ≤ month) : 0 ≤ monthStart month := by
  have epoch : monthStart (12 * 1970) = 0 := by decide
  exact epoch ▸ monthStart_le (by omega) after

theorem epoch_le_monthOf (days : Nat) : 12 * 1970 ≤ monthOf days := by
  by_contra before
  have after := two_le_monthOf days
  have bound := @monthStart_le (monthOf days + 1) (12 * 1970) (by omega) (by omega)
  have epoch : monthStart (12 * 1970) = 0 := by decide
  have inside := (monthOf_spec days).2
  omega

/-- The date of the day on which a month begins. -/
theorem ofDays_monthStart {month : Nat} (after : 12 * 1970 ≤ month) : ofDays (monthStart month).toNat = firstOf month := by
  have days : ((monthStart month).toNat : Int) = monthStart month := Int.toNat_of_nonneg (monthStart_nonneg after)
  have own : monthOf (monthStart month).toNat = month := by
    rw [monthOf_eq_iff (by omega), days]
    exact ⟨Int.le_refl _, monthStart_lt_succ (by omega)⟩
  have back := toDays_ofDays (monthStart month).toNat
  obtain ⟨month_pos, month_le, day_pos, -⟩ := ofDays_valid (monthStart month).toNat
  rw [days] at back
  unfold monthOf at own
  generalize ofDays (monthStart month).toNat = date at *
  obtain ⟨year, ofYear, day⟩ := date
  simp only at own month_pos month_le day_pos
  have sameYear : year = month / 12 := by omega
  have sameMonth : ofYear = month % 12 + 1 := by omega
  subst sameYear sameMonth
  have first : day = 1 := by
    simp only [monthStart, firstOf, toDays] at back
    omega
  rw [first]
  rfl

/-- The days before the year 10000. -/
theorem monthOf_lt {days : Nat} (bound : days < 2932897) : monthOf days < 12 * 10000 := by
  have year := year_ofDays_lt bound
  have month := (ofDays_valid days).2.1
  unfold monthOf
  omega

end CivilDate
