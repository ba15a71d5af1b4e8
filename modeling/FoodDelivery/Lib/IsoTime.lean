import Mathlib.Algebra.Ring.Nat
import Mathlib.Data.List.DropRight
import Mathlib.Data.List.TakeDrop
import Mathlib.Tactic.Common

/-- A date of the Gregorian calendar. -/
structure CivilDate where
  year : Nat
  month : Nat
  day : Nat
  deriving DecidableEq, Repr

namespace CivilDate

/-- Years begin on 1 March here, so that a leap day is the last of its year, of
its four years and of its era of 400 years. -/
def century (dayOfEra : Nat) : Nat := min (dayOfEra / 36524) 3

def dayOfCentury (dayOfEra : Nat) : Nat := dayOfEra - 36524 * century dayOfEra

def yearOfFour (dayOfFour : Nat) : Nat := min (dayOfFour / 365) 3

def yearOfEra (dayOfEra : Nat) : Nat :=
  100 * century dayOfEra + 4 * (dayOfCentury dayOfEra / 1461) + yearOfFour (dayOfCentury dayOfEra % 1461)

def daysBeforeYear (yearOfEra : Nat) : Nat := 365 * yearOfEra + yearOfEra / 4 - yearOfEra / 100

def dayOfYear (dayOfEra : Nat) : Nat := dayOfEra - daysBeforeYear (yearOfEra dayOfEra)

def monthOfYear (dayOfYear : Nat) : Nat := (5 * dayOfYear + 2) / 153

def daysBeforeMonth (monthOfYear : Nat) : Nat := (153 * monthOfYear + 2) / 5

/-- The date of a day counted from 1970-01-01. -/
def ofDays (days : Nat) : CivilDate :=
  let dayOfEra := (days + 719468) % 146097
  let month := monthOfYear (dayOfYear dayOfEra)
  { year := 400 * ((days + 719468) / 146097) + yearOfEra dayOfEra + (month + 2) / 12
    month := (month + 2) % 12 + 1
    day := dayOfYear dayOfEra - daysBeforeMonth month + 1 }

def toDays (date : CivilDate) : Int :=
  let year := date.year - (14 - date.month) / 12
  let month := (date.month + 9) % 12
  ((146097 * (year / 400) + daysBeforeYear (year % 400) + daysBeforeMonth month + date.day : Nat) : Int) - 719469

theorem dayOfCentury_lt {dayOfEra : Nat} (bound : dayOfEra < 146097) : dayOfCentury dayOfEra < 36525 := by
  unfold dayOfCentury century
  omega

theorem century_add_dayOfCentury (dayOfEra : Nat) : 36524 * century dayOfEra + dayOfCentury dayOfEra = dayOfEra := by
  unfold dayOfCentury century
  omega

theorem yearOfFour_lt (dayOfFour : Nat) : yearOfFour dayOfFour < 4 := by
  unfold yearOfFour
  omega

theorem daysBeforeYear_add {century four year : Nat} (fours : four < 25) (years : year < 4) :
    daysBeforeYear (100 * century + 4 * four + year) = 36524 * century + 1461 * four + 365 * year := by
  unfold daysBeforeYear
  omega

theorem yearOfEra_lt {dayOfEra : Nat} (bound : dayOfEra < 146097) : yearOfEra dayOfEra < 400 := by
  have inCentury := dayOfCentury_lt bound
  have inFour := yearOfFour_lt (dayOfCentury dayOfEra % 1461)
  have few : century dayOfEra ≤ 3 := min_le_right _ _
  unfold yearOfEra
  omega

/-- What is left of an era after its whole years: less than a leap year. -/
theorem daysBeforeYear_yearOfEra {dayOfEra : Nat} (bound : dayOfEra < 146097) :
    daysBeforeYear (yearOfEra dayOfEra) + dayOfYear dayOfEra = dayOfEra ∧ dayOfYear dayOfEra < 366 := by
  have inCentury := dayOfCentury_lt bound
  have whole := century_add_dayOfCentury dayOfEra
  have before := @daysBeforeYear_add (century dayOfEra) (dayOfCentury dayOfEra / 1461)
    (yearOfFour (dayOfCentury dayOfEra % 1461)) (by omega) (yearOfFour_lt _)
  rw [← yearOfEra] at before
  unfold dayOfYear
  rw [before]
  unfold yearOfFour
  omega

theorem daysBeforeMonth_le (dayOfYear : Nat) : daysBeforeMonth (monthOfYear dayOfYear) ≤ dayOfYear := by
  unfold daysBeforeMonth monthOfYear
  omega

theorem monthOfYear_lt {dayOfYear : Nat} (bound : dayOfYear < 366) : monthOfYear dayOfYear < 12 := by
  unfold monthOfYear
  omega

theorem dayOfEra_lt (days : Nat) : (days + 719468) % 146097 < 146097 := Nat.mod_lt _ (by omega)

/-- What the calendar shows of any day is a month and a day of it. -/
theorem ofDays_valid (days : Nat) :
    1 ≤ (ofDays days).month ∧ (ofDays days).month ≤ 12 ∧ 1 ≤ (ofDays days).day ∧ (ofDays days).day ≤ 31 := by
  have ofYear := (daysBeforeYear_yearOfEra (dayOfEra_lt days)).2
  simp only [ofDays, daysBeforeMonth, monthOfYear]
  omega

/-- 2932897 days after 1970-01-01 the years have five digits. -/
theorem year_ofDays_lt {days : Nat} (bound : days < 2932897) : (ofDays days).year < 10000 := by
  have inEra := dayOfEra_lt days
  have year := yearOfEra_lt inEra
  obtain ⟨whole, ofYear⟩ := daysBeforeYear_yearOfEra inEra
  have month := monthOfYear_lt ofYear
  have parts := Nat.div_add_mod (days + 719468) 146097
  simp only [ofDays]
  by_cases last : yearOfEra ((days + 719468) % 146097) = 399
  · -- The first ten months of the last year of an era belong to the year that the calendar shows.
    rw [last, daysBeforeYear] at whole
    unfold monthOfYear
    omega
  · omega

theorem toDays_ofDays (days : Nat) : (ofDays days).toDays = days := by
  have inEra := dayOfEra_lt days
  have year := yearOfEra_lt inEra
  obtain ⟨whole, ofYear⟩ := daysBeforeYear_yearOfEra inEra
  have before := daysBeforeMonth_le (dayOfYear ((days + 719468) % 146097))
  have month := monthOfYear_lt ofYear
  have parts := Nat.div_add_mod (days + 719468) 146097
  simp only [ofDays, toDays]
  generalize monthOfYear (dayOfYear ((days + 719468) % 146097)) = shown at *
  have sameMonth : ((shown + 2) % 12 + 1 + 9) % 12 = shown := by omega
  have carried : (14 - ((shown + 2) % 12 + 1)) / 12 = (shown + 2) / 12 := by omega
  rw [sameMonth, carried, Nat.add_sub_cancel, Nat.mul_add_mod, Nat.mod_eq_of_lt year,
    Nat.mul_add_div (by omega), Nat.div_eq_of_lt year, Nat.add_zero]
  omega

end CivilDate

namespace IsoTime

/-- Decimal digits, as many as the width. -/
def padded : Nat → Nat → List Char
  | 0, _ => []
  | width + 1, n => padded width (n / 10) ++ [(n % 10).digitChar]

def digit (c : Char) : Option Nat := if c.isDigit then some (c.toNat - 48) else none

def number (text : List Char) : Option Nat := text.foldlM (fun n c => (digit c).map (10 * n + ·)) 0

/-- A number of so many digits, and what follows it. -/
def field (width : Nat) (text : List Char) : Option (Nat × List Char) :=
  if width ≤ text.length then (number (text.take width)).map (·, text.drop width) else none

def literal (c : Char) : List Char → Option (List Char)
  | first :: rest => if first = c then some rest else none
  | [] => none

@[simp] theorem length_padded (width n : Nat) : (padded width n).length = width := by
  induction width generalizing n with
  | zero => rfl
  | succ width ih => simp only [padded, List.length_append, ih, List.length_singleton]

theorem isDigit_of_mem_padded {width n : Nat} {c : Char} (member : c ∈ padded width n) : c.isDigit := by
  induction width generalizing n with
  | zero => cases member
  | succ width ih =>
    rw [padded, List.mem_append, List.mem_singleton] at member
    rcases member with earlier | rfl
    · exact ih earlier
    · rw [Nat.isDigit_digitChar, decide_eq_true_eq]
      exact Nat.mod_lt _ (by omega)

theorem digit_digitChar : ∀ n < 10, digit n.digitChar = some n := by decide

theorem number_padded {width n : Nat} (bound : n < 10 ^ width) : number (padded width n) = some n := by
  induction width generalizing n with
  | zero =>
    have zero : n = 0 := by omega
    rw [zero]
    rfl
  | succ width ih =>
    have fewer : n / 10 < 10 ^ width := by omega
    have high : (padded width (n / 10)).foldlM (fun n c => (digit c).map (10 * n + ·)) 0 = some (n / 10) := ih fewer
    rw [padded, number, List.foldlM_append, high]
    simp only [bind, Option.bind_some, List.foldlM_cons, List.foldlM_nil, digit_digitChar _ (Nat.mod_lt n (by omega : 0 < 10)),
      Option.map_some, pure, Nat.div_add_mod]

@[simp] theorem field_padded {width n : Nat} (bound : n < 10 ^ width) (rest : List Char) :
    field width (padded width n ++ rest) = some (n, rest) := by
  have long : width ≤ (padded width n ++ rest).length := by
    rw [List.length_append, length_padded]
    omega
  rw [field, if_pos long, List.take_left' (length_padded width n), List.drop_left' (length_padded width n), number_padded bound,
    Option.map_some]

@[simp] theorem literal_cons (c : Char) (rest : List Char) : literal c (c :: rest) = some rest := if_pos rfl

/-- A reading of a clock on the day of a date. -/
structure Clock extends CivilDate where
  hour : Nat
  minute : Nat
  second : Nat

namespace Clock

def ofSeconds (seconds : Nat) : Clock where
  toCivilDate := .ofDays (seconds / 86400)
  hour := seconds / 3600 % 24
  minute := seconds / 60 % 60
  second := seconds % 60

def toSeconds (clock : Clock) : Int :=
  86400 * clock.toDays + 3600 * clock.hour + 60 * clock.minute + clock.second

def Valid (clock : Clock) : Prop :=
  1 ≤ clock.month ∧ clock.month ≤ 12 ∧ 1 ≤ clock.day ∧ clock.day ≤ 31 ∧ clock.hour < 24 ∧ clock.minute < 60 ∧ clock.second < 60

instance (clock : Clock) : Decidable clock.Valid := inferInstanceAs (Decidable (_ ∧ _))

theorem ofSeconds_valid (seconds : Nat) : (ofSeconds seconds).Valid := by
  obtain ⟨month_pos, month_le, day_pos, day_le⟩ := CivilDate.ofDays_valid (seconds / 86400)
  exact ⟨month_pos, month_le, day_pos, day_le, Nat.mod_lt _ (by omega), Nat.mod_lt _ (by omega), Nat.mod_lt _ (by omega)⟩

theorem toSeconds_ofSeconds (seconds : Nat) : (ofSeconds seconds).toSeconds = seconds := by
  simp only [toSeconds, ofSeconds, CivilDate.toDays_ofDays]
  omega

/-- `YYYY-MM-DDTHH:MM:SS`. -/
def text (clock : Clock) : List Char :=
  padded 4 clock.year ++ '-' :: (padded 2 clock.month ++ '-' :: (padded 2 clock.day ++ 'T' ::
    (padded 2 clock.hour ++ ':' :: (padded 2 clock.minute ++ ':' :: padded 2 clock.second))))

def read (text : List Char) : Option (Clock × List Char) := do
  let (year, text) ← field 4 text
  let text ← literal '-' text
  let (month, text) ← field 2 text
  let text ← literal '-' text
  let (day, text) ← field 2 text
  let text ← literal 'T' text
  let (hour, text) ← field 2 text
  let text ← literal ':' text
  let (minute, text) ← field 2 text
  let text ← literal ':' text
  let (second, text) ← field 2 text
  some ({ year, month, day, hour, minute, second }, text)

theorem read_text {clock : Clock} (year : clock.year < 10 ^ 4) (valid : clock.Valid) (rest : List Char) :
    read (clock.text ++ rest) = some (clock, rest) := by
  obtain ⟨_, month, _, day, hour, minute, second⟩ := valid
  have two : ∀ n < 60, n < 10 ^ 2 := by omega
  simp only [text, read, List.append_assoc, List.cons_append, bind, field_padded year, field_padded (two _ (by omega : clock.month < 60)),
    field_padded (two _ (by omega : clock.day < 60)), field_padded (two _ (by omega : clock.hour < 60)), field_padded (two _ minute),
    field_padded (two _ second), Option.bind_some, literal_cons]

end Clock

section fraction

/-- Digits of a fraction of a second: three of them are kept. -/
def milliseconds (digits : List Char) : Option Nat := number (digits.takeD 3 '0')

theorem takeD_concat {α : Type*} (n : Nat) (l : List α) (a : α) : (l ++ [a]).takeD n a = l.takeD n a := by
  induction n generalizing l with
  | zero => rfl
  | succ n ih =>
    cases l with
    | nil =>
      have rest := ih []
      simp only [List.nil_append, List.takeD_nil] at rest
      simp only [List.nil_append, List.takeD_succ, List.head?_cons, Option.getD_some, List.tail_cons, List.takeD_nil, List.head?_nil,
        Option.getD_none, List.tail_nil]
    | cons b rest => simp only [List.cons_append, List.takeD_succ, List.head?_cons, Option.getD_some, List.tail_cons, ih]

theorem takeD_rdropWhile {α : Type*} [DecidableEq α] (n : Nat) (l : List α) (a : α) :
    (l.rdropWhile (· = a)).takeD n a = l.takeD n a := by
  induction l using List.reverseRecOn with
  | nil => rfl
  | append_singleton l b ih =>
    by_cases same : b = a
    · rw [List.rdropWhile_concat_pos _ _ _ (by rw [same, decide_eq_true_eq]), same, takeD_concat, ih]
    · rw [List.rdropWhile_concat_neg _ _ _ (by rwa [decide_eq_true_eq])]

/-- The first digits of a number are those of its high part. -/
theorem take_padded (width more n : Nat) : (padded (width + more) n).take width = padded width (n / 10 ^ more) := by
  induction more generalizing n with
  | zero => rw [Nat.add_zero, Nat.pow_zero, Nat.div_one, List.take_of_length_le (length_padded width n).le]
  | succ more ih =>
    rw [← Nat.add_assoc, padded, List.take_append_of_le_length (by rw [length_padded]; omega), ih, Nat.div_div_eq_div_mul,
      ← Nat.pow_succ']

theorem milliseconds_padded {ms : Nat} (bound : ms < 10 ^ 3) : milliseconds (padded 3 ms) = some ms := by
  rw [milliseconds, List.takeD_eq_take _ (length_padded 3 ms).ge, List.take_of_length_le (length_padded 3 ms).le,
    number_padded bound]

/-- Zeros at the end of a fraction do not matter. -/
theorem milliseconds_rdropWhile {micros : Nat} (bound : micros < 10 ^ 6) :
    milliseconds ((padded 6 micros).rdropWhile (· = '0')) = some (micros / 10 ^ 3) := by
  have long : 3 ≤ (padded 6 micros).length := by
    rw [length_padded]
    omega
  rw [milliseconds, takeD_rdropWhile, List.takeD_eq_take _ long, take_padded 3 3, number_padded (by omega)]

/-- The digits of a fraction end before the zone. -/
def readFraction : List Char → Option (Nat × List Char)
  | '.' :: text =>
    if text.takeWhile Char.isDigit = [] then none
    else (milliseconds (text.takeWhile Char.isDigit)).map (·, text.dropWhile Char.isDigit)
  | text => some (0, text)

theorem readFraction_digits {digits : List Char} (all : ∀ c ∈ digits, c.isDigit) (some_digit : digits ≠ []) {c : Char}
    (other : ¬ c.isDigit) (rest : List Char) :
    readFraction ('.' :: (digits ++ c :: rest)) = (milliseconds digits).map (·, c :: rest) := by
  have taken : (digits ++ c :: rest).takeWhile Char.isDigit = digits := by
    rw [List.takeWhile_append_of_pos all, List.takeWhile_cons_of_neg other, List.append_nil]
  have left : (digits ++ c :: rest).dropWhile Char.isDigit = c :: rest := by
    rw [List.dropWhile_append_of_pos all, List.dropWhile_cons_of_neg other]
  rw [readFraction, taken, left, if_neg some_digit]

theorem readFraction_none {c : Char} (other : c ≠ '.') (rest : List Char) : readFraction (c :: rest) = some (0, c :: rest) := by
  unfold readFraction
  split
  · next same =>
    cases same
    exact absurd rfl other
  · rfl

theorem readFraction_padded {ms : Nat} (bound : ms < 10 ^ 3) {c : Char} (other : ¬ c.isDigit) (rest : List Char) :
    readFraction ('.' :: (padded 3 ms ++ c :: rest)) = some (ms, c :: rest) := by
  have some_digit : padded 3 ms ≠ [] := List.ne_nil_of_length_pos (by rw [length_padded]; omega)
  rw [readFraction_digits (fun c => isDigit_of_mem_padded) some_digit other, milliseconds_padded bound, Option.map_some]

/-- A fraction of a second in microseconds without the zeros at its end. -/
def fraction (micros : Nat) : List Char :=
  if micros = 0 then [] else '.' :: (padded 6 micros).rdropWhile (· = '0')

theorem eq_zero_of_padded {width n : Nat} (bound : n < 10 ^ width) (zeros : ∀ c ∈ padded width n, c = '0') : n = 0 := by
  induction width generalizing n with
  | zero => omega
  | succ width ih =>
    have high : n / 10 = 0 := ih (by omega) fun c member => zeros c (List.mem_append_left _ member)
    have low : n % 10 = 0 := Nat.digitChar_eq_zero.mp (zeros _ (List.mem_append_right _ (List.mem_singleton_self _)))
    omega

theorem readFraction_fraction {micros : Nat} (bound : micros < 10 ^ 6) {c : Char} (other : ¬ c.isDigit) (point : c ≠ '.')
    (rest : List Char) : readFraction (fraction micros ++ c :: rest) = some (micros / 10 ^ 3, c :: rest) := by
  unfold fraction
  split
  · next whole => rw [whole, List.nil_append, readFraction_none point, Nat.zero_div]
  · next part =>
    have some_digit : (padded 6 micros).rdropWhile (· = '0') ≠ [] := by
      intro none
      refine part (eq_zero_of_padded bound fun c member => ?_)
      exact decide_eq_true_eq.mp (List.rdropWhile_eq_nil_iff.mp none c member)
    have all : ∀ c ∈ (padded 6 micros).rdropWhile (· = '0'), c.isDigit :=
      fun c member => isDigit_of_mem_padded ((List.rdropWhile_prefix _ _).mem member)
    rw [List.cons_append, readFraction_digits all some_digit other, milliseconds_rdropWhile bound, Option.map_some]

end fraction

section zone

/-- Minutes east of Greenwich. -/
def zone (offset : Int) : List Char :=
  (if 0 ≤ offset then '+' else '-') :: (padded 2 (offset.natAbs / 60) ++ ':' :: padded 2 (offset.natAbs % 60))

def readZone : List Char → Option Int
  | [] => none
  | sign :: text =>
    if sign = 'Z' then if text = [] then some 0 else none
    else do
      let (hour, text) ← field 2 text
      let text ← literal ':' text
      let (minute, text) ← field 2 text
      if text = [] ∧ hour < 24 ∧ minute < 60 then
        if sign = '+' then some (60 * hour + minute) else if sign = '-' then some (- (60 * hour + minute)) else none
      else none

/-- A zone begins with its sign. -/
theorem exists_zone (offset : Int) : ∃ sign rest, zone offset = sign :: rest ∧ ¬ sign.isDigit ∧ sign ≠ '.' := by
  by_cases east : 0 ≤ offset
  · exact ⟨'+', _, by rw [zone, if_pos east], by decide, by decide⟩
  · exact ⟨'-', _, by rw [zone, if_neg east], by decide, by decide⟩

theorem readZone_zone {offset : Int} (bound : offset.natAbs < 1440) : readZone (zone offset) = some offset := by
  have hour := field_padded (show offset.natAbs / 60 < 10 ^ 2 by omega)
  have minute := field_padded (show offset.natAbs % 60 < 10 ^ 2 by omega) []
  rw [List.append_nil] at minute
  simp only [zone, readZone, bind, hour, minute, Option.bind_some, literal_cons]
  have inDay : offset.natAbs / 60 < 24 ∧ offset.natAbs % 60 < 60 := by omega
  by_cases east : 0 ≤ offset
  · have whole : 60 * ((offset.natAbs / 60 : Nat) : Int) + (offset.natAbs % 60 : Nat) = offset := by omega
    rw [if_pos east, if_neg (by decide), if_pos ⟨trivial, inDay⟩, if_pos rfl, whole]
  · have whole : - (60 * ((offset.natAbs / 60 : Nat) : Int) + (offset.natAbs % 60 : Nat)) = offset := by omega
    rw [if_neg east, if_neg (by decide), if_pos ⟨trivial, inDay⟩, if_neg (by decide), if_pos rfl, whole]

end zone

/-- `Date.parse`: milliseconds since 1970. -/
def parse (text : List Char) : Option Int := do
  let (clock, text) ← Clock.read text
  let (ms, text) ← readFraction text
  let offset ← readZone text
  if clock.Valid then some (1000 * clock.toSeconds + ms - 60000 * offset) else none

theorem parse_text {clock : Clock} (year : clock.year < 10 ^ 4) (valid : clock.Valid) {text rest : List Char} {ms : Nat}
    {offset : Int} (fraction : readFraction text = some (ms, rest)) (zone : readZone rest = some offset) :
    parse (clock.text ++ text) = some (1000 * clock.toSeconds + ms - 60000 * offset) := by
  simp only [parse, bind, Clock.read_text year valid, Option.bind_some, fraction, zone]
  rw [if_pos valid]

/-- The first second of the year 10000. -/
def limit : Nat := 86400 * 2932897

/-- `toISOString` of a time in milliseconds. -/
def toISOString (ms : Nat) : List Char :=
  (Clock.ofSeconds (ms / 1000)).text ++ '.' :: (padded 3 (ms % 1000) ++ ['Z'])

/-- A time in microseconds on the clocks of a zone. -/
def withZone (offset : Int) (micros : Nat) : List Char :=
  let shown := (micros + 60000000 * offset).toNat
  (Clock.ofSeconds (shown / 1000000)).text ++ (fraction (shown % 1000000) ++ zone offset)

theorem year_ofSeconds_lt {seconds : Nat} (bound : seconds < limit) : (Clock.ofSeconds seconds).year < 10 ^ 4 :=
  CivilDate.year_ofDays_lt (Nat.div_lt_of_lt_mul bound)

theorem parse_toISOString {ms : Nat} (bound : ms / 1000 < limit) : parse (toISOString ms) = some (ms : Int) := by
  have small : ms % 1000 < 10 ^ 3 := Nat.mod_lt ms (by omega)
  have fraction := readFraction_padded small (c := 'Z') (by decide) []
  rw [toISOString, parse_text (year_ofSeconds_lt bound) (Clock.ofSeconds_valid _) fraction rfl, Clock.toSeconds_ofSeconds]
  congr 1
  omega

example : String.ofList (toISOString 951782400123) = "2000-02-29T00:00:00.123Z" := by rfl

example : String.ofList (withZone (-210) 1735689600120000) = "2024-12-31T20:30:00.12-03:30" := by rfl

/-- The zone does not matter, and what is finer than a millisecond is lost. -/
theorem parse_withZone {micros : Nat} {offset : Int} (inDay : offset.natAbs < 1440)
    (positive : 0 ≤ (micros : Int) + 60000000 * offset)
    (bound : (micros + 60000000 * offset).toNat / 1000000 < limit) :
    parse (withZone offset micros) = some ((micros / 1000 : Nat) : Int) := by
  have shift : ((micros + 60000000 * offset).toNat : Int) = micros + 60000000 * offset := Int.toNat_of_nonneg positive
  obtain ⟨sign, rest, signed, other, point⟩ := exists_zone offset
  have read := readZone_zone inDay
  simp only [withZone]
  rw [signed] at read ⊢
  generalize (micros + 60000000 * offset).toNat = shown at *
  have small : shown % 1000000 < 10 ^ 6 := Nat.mod_lt shown (by omega)
  have fraction := readFraction_fraction small other point rest
  rw [parse_text (year_ofSeconds_lt bound) (Clock.ofSeconds_valid _) fraction read, Clock.toSeconds_ofSeconds]
  congr 1
  omega

end IsoTime
