import Mathlib.Data.List.DropRight
import Mathlib.Data.List.TakeWhile
import FoodDelivery.Lib.Binary64
import FoodDelivery.Lib.Hexadecimal

namespace Numeral

open Binary64

def readNatural (digits : List Char) : Option ℕ :=
  if digits ≠ [] ∧ digits.all Char.isDigit then some (Nat.ofDigitChars 10 digits 0) else none

def readInteger : List Char → Option ℤ
  | '-' :: digits => (readNatural digits).map fun n : ℕ => -(n : ℤ)
  | '+' :: digits => (readNatural digits).map fun n : ℕ => (n : ℤ)
  | digits => (readNatural digits).map fun n : ℕ => (n : ℤ)

def readExponent : List Char → Option ℤ
  | [] => some 0
  | c :: rest => if c = 'e' ∨ c = 'E' then readInteger rest else none

/-- The digits behind a point and what follows them. -/
def splitFraction : List Char → List Char × List Char
  | '.' :: rest => (rest.takeWhile Char.isDigit, rest.dropWhile Char.isDigit)
  | rest => ([], rest)

def decimalValue (whole fraction : List Char) (exponent : ℤ) : ℚ :=
  Nat.ofDigitChars 10 (whole ++ fraction) 0 * 10 ^ (exponent - fraction.length)

def readDecimal (text : List Char) : Option ℚ :=
  let whole := text.takeWhile Char.isDigit
  let parts := splitFraction (text.dropWhile Char.isDigit)
  if whole ++ parts.1 = [] then none
  else (readExponent parts.2).map (decimalValue whole parts.1)

def readSigned (negative : Bool) (text : List Char) : Number :=
  if text = "Infinity".toList then .infinity negative
  else
    match readDecimal text with
    | some x => .ofRat (if negative then -x else x)
    | none => .nan

def digitBelow (base : ℕ) (c : Char) : Option ℕ := (Hexadecimal.value c).filter (· < base)

def readRadix (base : ℕ) (digits : List Char) : Number :=
  if digits ≠ [] ∧ digits.all fun c => (digitBelow base c).isSome then
    .ofRat (digits.foldl (fun sofar c => base * sofar + (digitBelow base c).getD 0) 0 : ℕ)
  else .nan

def radix (c : Char) : Option ℕ :=
  if c = 'x' ∨ c = 'X' then some 16
  else if c = 'o' ∨ c = 'O' then some 8
  else if c = 'b' ∨ c = 'B' then some 2
  else none

def readUnsigned : List Char → Number
  | '0' :: c :: rest =>
    match radix c with
    | some base => readRadix base rest
    | none => readSigned false ('0' :: c :: rest)
  | text => readSigned false text

/-- Without blanks around it, the empty text reads as zero. -/
def read : List Char → Number
  | [] => 0
  | '+' :: rest => readSigned false rest
  | '-' :: rest => readSigned true rest
  | text => readUnsigned text

section characters

/-- The characters of numerals. -/
def isNumeralChar (c : Char) : Bool := c.isAlphanum ∨ c ∈ ['.', '+', '-']

variable {text rest : List Char} {c : Char}

theorem isNumeralChar_of_isDigit (digit : c.isDigit) : isNumeralChar c := by
  have alphanumeric : (c.isAlpha || c.isDigit) = true := Bool.or_eq_true_iff.mpr (Or.inr digit)
  exact decide_eq_true (Or.inl alphanumeric)

theorem readNatural_chars {n : ℕ} (natural : readNatural text = some n) : ∀ c ∈ text, isNumeralChar c := by
  unfold readNatural at natural
  split at natural
  · next digits => exact fun c member => isNumeralChar_of_isDigit (List.all_eq_true.mp digits.2 c member)
  · cases natural

theorem readInteger_chars {n : ℤ} (integer : readInteger text = some n) : ∀ c ∈ text, isNumeralChar c := by
  unfold readInteger at integer
  split at integer
  all_goals obtain ⟨natural, read, -⟩ := Option.map_eq_some_iff.mp integer
  · exact List.forall_mem_cons.mpr ⟨by decide, readNatural_chars read⟩
  · exact List.forall_mem_cons.mpr ⟨by decide, readNatural_chars read⟩
  · exact readNatural_chars read

theorem readExponent_chars {n : ℤ} (exponent : readExponent text = some n) : ∀ c ∈ text, isNumeralChar c := by
  unfold readExponent at exponent
  split at exponent
  · exact List.forall_mem_nil _
  · split at exponent
    · next marked =>
      refine List.forall_mem_cons.mpr ⟨?_, readInteger_chars exponent⟩
      rcases marked with rfl | rfl <;> decide
    · cases exponent

theorem takeWhile_isDigit_chars (text : List Char) : ∀ c ∈ text.takeWhile Char.isDigit, isNumeralChar c :=
  fun _ member => isNumeralChar_of_isDigit (List.mem_takeWhile_imp member)

theorem splitFraction_chars (after : ∀ c ∈ (splitFraction text).2, isNumeralChar c) : ∀ c ∈ text, isNumeralChar c := by
  unfold splitFraction at after
  split at after
  · next rest =>
    rw [← @List.takeWhile_append_dropWhile _ Char.isDigit rest]
    exact List.forall_mem_cons.mpr ⟨by decide, List.forall_mem_append.mpr ⟨takeWhile_isDigit_chars _, after⟩⟩
  · exact after

theorem readDecimal_chars {x : ℚ} (decimal : readDecimal text = some x) : ∀ c ∈ text, isNumeralChar c := by
  unfold readDecimal at decimal
  dsimp only at decimal
  split at decimal
  · cases decimal
  · obtain ⟨exponent, read, -⟩ := Option.map_eq_some_iff.mp decimal
    rw [← @List.takeWhile_append_dropWhile _ Char.isDigit text]
    exact List.forall_mem_append.mpr ⟨takeWhile_isDigit_chars _, splitFraction_chars (readExponent_chars read)⟩

theorem readSigned_chars {negative : Bool} (number : readSigned negative text ≠ .nan) : ∀ c ∈ text, isNumeralChar c := by
  unfold readSigned at number
  split at number
  · next infinite =>
    rw [infinite]
    exact List.all_eq_true.mp (by decide)
  · split at number
    · next decimal => exact readDecimal_chars decimal
    · exact absurd rfl number

theorem isAlphanum_of_isAlpha (alpha : c.isUpper ∨ c.isLower) : c.isAlphanum :=
  Bool.or_eq_true_iff.mpr (Or.inl (Bool.or_eq_true_iff.mpr alpha))

theorem isNumeralChar_of_value {digit : ℕ} (value : Hexadecimal.value c = some digit) : isNumeralChar c := by
  unfold Hexadecimal.value at value
  split at value
  · next decimal => exact isNumeralChar_of_isDigit decimal
  · split at value
    · next lower =>
      have isLower : c.isLower :=
        Bool.and_eq_true_iff.mpr ⟨decide_eq_true lower.1, decide_eq_true (Char.le_trans lower.2 (show 'f' ≤ 'z' by decide))⟩
      exact decide_eq_true (Or.inl (isAlphanum_of_isAlpha (Or.inr isLower)))
    · split at value
      · next upper =>
        have isUpper : c.isUpper := decide_eq_true ⟨upper.1, Char.le_trans upper.2 (show 'F' ≤ 'Z' by decide)⟩
        exact decide_eq_true (Or.inl (isAlphanum_of_isAlpha (Or.inl isUpper)))
      · cases value

theorem readRadix_chars {base : ℕ} (number : readRadix base text ≠ .nan) : ∀ c ∈ text, isNumeralChar c := by
  unfold readRadix at number
  split at number
  · next digits =>
    intro c member
    obtain ⟨digit, below⟩ := Option.isSome_iff_exists.mp (List.all_eq_true.mp digits.2 c member)
    exact isNumeralChar_of_value (Option.filter_eq_some_iff.mp below).1
  · exact absurd rfl number

theorem readUnsigned_chars (number : readUnsigned text ≠ .nan) : ∀ c ∈ text, isNumeralChar c := by
  unfold readUnsigned at number
  split at number
  · next c rest =>
    split at number
    · next base marked =>
      refine List.forall_mem_cons.mpr ⟨by decide, List.forall_mem_cons.mpr ⟨?_, readRadix_chars number⟩⟩
      unfold radix at marked
      split at marked
      · next hexadecimal => rcases hexadecimal with rfl | rfl <;> decide
      · split at marked
        · next octal => rcases octal with rfl | rfl <;> decide
        · split at marked
          · next binary => rcases binary with rfl | rfl <;> decide
          · cases marked
    · exact readSigned_chars number
  · exact readSigned_chars number

/-- Only numerals read as numbers. -/
theorem read_chars (number : read text ≠ .nan) : ∀ c ∈ text, isNumeralChar c := by
  unfold read at number
  split at number
  · exact List.forall_mem_nil _
  · exact List.forall_mem_cons.mpr ⟨by decide, readSigned_chars number⟩
  · exact List.forall_mem_cons.mpr ⟨by decide, readSigned_chars number⟩
  · exact readUnsigned_chars number

end characters

/-- A positive number lies between the powers of ten of its scale less one and of its scale. -/
def scale (x : ℚ) : ℤ := Int.log 10 x + 1

/-- The nearest integer and the one on the other side. -/
def neighbours (x : ℚ) : List ℤ :=
  let nearest := roundHalfEven x
  [nearest, if x < nearest then nearest - 1 else nearest + 1]

/-- A significand of so many digits that is rounded back to the number. -/
def significand (x : ℚ) (digits : ℕ) : Option ℤ :=
  (neighbours (x / 10 ^ (scale x - digits))).find? fun s => round (s * 10 ^ (scale x - digits)) = x

/-- The fewest digits that a significand needs: 17 are enough. -/
def precision (x : ℚ) : ℕ := ((List.range' 1 17).find? fun digits => (significand x digits).isSome).getD 17

def shortest (x : ℚ) : ℤ × ℤ := ((significand x (precision x)).getD 0, scale x - precision x)

def significantDigits (s : ℕ) : List Char := (Nat.toDigits 10 s).rdropWhile (· = '0')

/-- Digits as a text, where so many stand before the point. -/
def layout (digits : List Char) (point : ℤ) : List Char :=
  if digits.length ≤ point ∧ point ≤ 21 then digits ++ List.replicate (point - digits.length).toNat '0'
  else if 0 < point ∧ point ≤ 21 then digits.take point.toNat ++ '.' :: digits.drop point.toNat
  else if -6 < point ∧ point ≤ 0 then '0' :: '.' :: (List.replicate (-point).toNat '0' ++ digits)
  else
    let exponent := 'e' :: (if point ≤ 0 then '-' else '+') :: Nat.toDigits 10 (point - 1).natAbs
    match digits with
    | first :: second :: rest => first :: '.' :: second :: (rest ++ exponent)
    | _ => digits ++ exponent

def writePositive (x : ℚ) : List Char :=
  let (s, exponent) := shortest x
  layout (significantDigits s.toNat) ((Nat.toDigits 10 s.toNat).length + exponent)

def write : Number → List Char
  | .nan => "NaN".toList
  | .infinity negative => (if negative then "-Infinity" else "Infinity").toList
  | .finite x =>
    if x.value = 0 then ['0']
    else if x.value < 0 then '-' :: writePositive (-x.value)
    else writePositive x.value

section shortest

variable {x : ℚ}

theorem zpow_scale_le (positive : 0 < x) : (10 : ℚ) ^ (scale x - 1) ≤ x := by
  rw [scale, add_sub_cancel_right]
  exact_mod_cast Int.zpow_log_le_self (b := 10) (by norm_num) positive

/-- With 17 digits the nearest significand is close enough. -/
theorem significand_enough (mem : x ∈ grid) (positive : 0 < x) : (significand x 17).isSome := by
  have power : (0 : ℚ) < 10 ^ (scale x - (17 : ℕ)) := zpow_pos (by norm_num) _
  have large : 10 ^ 16 * 10 ^ (scale x - (17 : ℕ)) ≤ x := by
    refine le_of_eq_of_le ?_ (zpow_scale_le positive)
    rw [← zpow_natCast, ← zpow_add₀ (by norm_num)]
    congr 1
    push_cast
    ring
  have half := roundHalfEven_half (x / 10 ^ (scale x - (17 : ℕ)))
  have near : |x - roundHalfEven (x / 10 ^ (scale x - (17 : ℕ))) * 10 ^ (scale x - (17 : ℕ))| ≤
      1 / 2 * 10 ^ (scale x - (17 : ℕ)) := by
    have scaled := mul_le_mul_of_nonneg_right half power.le
    rwa [← abs_of_pos power, ← abs_mul, abs_of_pos power, sub_mul, div_mul_cancel₀ x power.ne', abs_sub_comm] at scaled
  have rounded : round (roundHalfEven (x / 10 ^ (scale x - (17 : ℕ))) * 10 ^ (scale x - (17 : ℕ))) = x := by
    refine round_eq_of_near mem positive ?_
    calc 2 ^ 54 * _ ≤ 2 ^ 54 * (1 / 2 * 10 ^ (scale x - (17 : ℕ))) := mul_le_mul_of_nonneg_left near (by norm_num)
      _ < 10 ^ 16 * 10 ^ (scale x - (17 : ℕ)) := by
        rw [← mul_assoc]
        exact mul_lt_mul_of_pos_right (by norm_num) power
      _ ≤ x := large
  exact List.find?_isSome.mpr ⟨_, List.mem_cons_self .., decide_eq_true rounded⟩

theorem significand_spec {digits : ℕ} {s : ℤ} (found : significand x digits = some s) :
    round (s * 10 ^ (scale x - digits)) = x := by
  have same := List.find?_some found
  exact of_decide_eq_true same

theorem precision_isSome (mem : x ∈ grid) (positive : 0 < x) : (significand x (precision x)).isSome := by
  unfold precision
  cases found : (List.range' 1 17).find? fun digits => (significand x digits).isSome with
  | none => exact significand_enough mem positive
  | some digits => exact (List.find?_range'_eq_some.mp found).1

/-- The shortest numeral is rounded back to the number. -/
theorem round_shortest (mem : x ∈ grid) (positive : 0 < x) : round ((shortest x).1 * 10 ^ (shortest x).2) = x := by
  obtain ⟨s, found⟩ := Option.isSome_iff_exists.mp (precision_isSome mem positive)
  have spec := significand_spec found
  rwa [shortest, found]

theorem shortest_pos (mem : x ∈ grid) (positive : 0 < x) : 0 < (shortest x).1 := by
  by_contra nonpositive
  have power : (0 : ℚ) < 10 ^ (shortest x).2 := zpow_pos (by norm_num) _
  have bound : ((shortest x).1 : ℚ) ≤ 0 := by exact_mod_cast not_lt.mp nonpositive
  have zero : (0 : ℚ) ∈ grid := mod_cast grid_int (n := 0) (by norm_num)
  have rounded := round_mono (mul_nonpos_of_nonpos_of_nonneg bound power.le)
  rw [round_shortest mem positive, round_eq zero] at rounded
  linarith

end shortest

section layout

variable {digits whole fraction rest : List Char} {point : ℤ}

theorem isDigit_toDigits (n : ℕ) : ∀ c ∈ Nat.toDigits 10 n, c.isDigit :=
  fun _ member => Nat.isDigit_of_mem_toDigits (by decide) (by decide) member

theorem readNatural_toDigits (n : ℕ) : readNatural (Nat.toDigits 10 n) = some n := by
  rw [readNatural, if_pos ⟨Nat.toDigits_ne_nil, List.all_eq_true.mpr (isDigit_toDigits n)⟩, Nat.ofDigitChars_ten_toDigits]

/-- The text does not go on with a digit. -/
def Ends (rest : List Char) : Prop := ∀ c, rest.head? = some c → c.isDigit = false

theorem takeWhile_isDigit (all : ∀ c ∈ digits, c.isDigit) (ends : Ends rest) : (digits ++ rest).takeWhile Char.isDigit = digits := by
  rw [List.takeWhile_append_of_pos all]
  cases rest with
  | nil => rw [List.takeWhile_nil, List.append_nil]
  | cons c rest => rw [List.takeWhile_cons_of_neg (Bool.eq_false_iff.mp (ends c rfl)), List.append_nil]

theorem dropWhile_isDigit (all : ∀ c ∈ digits, c.isDigit) (ends : Ends rest) : (digits ++ rest).dropWhile Char.isDigit = rest := by
  rw [List.dropWhile_append_of_pos all]
  cases rest with
  | nil => rfl
  | cons c rest => exact List.dropWhile_cons_of_neg (Bool.eq_false_iff.mp (ends c rfl))

theorem ends_nil : Ends [] := nofun

theorem ends_cons {c : Char} (other : c.isDigit = false) : Ends (c :: rest) := by
  intro d same
  cases same
  exact other

theorem readDecimal_whole (all : ∀ c ∈ digits, c.isDigit) (nonempty : digits ≠ []) (ends : Ends rest) (pointless : rest.head? ≠ some '.') :
    readDecimal (digits ++ rest) = (readExponent rest).map (decimalValue digits []) := by
  have parts : splitFraction rest = ([], rest) := by
    unfold splitFraction
    split
    · exact absurd rfl pointless
    · rfl
  simp only [readDecimal, takeWhile_isDigit all ends, dropWhile_isDigit all ends, parts, List.append_nil]
  rw [if_neg nonempty]

theorem readDecimal_point (all : ∀ c ∈ whole, c.isDigit) (all' : ∀ c ∈ fraction, c.isDigit) (nonempty : whole ++ fraction ≠ [])
    (ends : Ends rest) :
    readDecimal (whole ++ '.' :: (fraction ++ rest)) = (readExponent rest).map (decimalValue whole fraction) := by
  have parts : splitFraction ('.' :: (fraction ++ rest)) = (fraction, rest) := by
    rw [splitFraction, takeWhile_isDigit all' ends, dropWhile_isDigit all' ends]
  have before : Ends ('.' :: (fraction ++ rest)) := ends_cons rfl
  simp only [readDecimal, takeWhile_isDigit all before, dropWhile_isDigit all before, parts]
  rw [if_neg nonempty]

theorem readExponent_written (point : ℤ) :
    readExponent ('e' :: (if point ≤ 0 then '-' else '+') :: Nat.toDigits 10 (point - 1).natAbs) = some (point - 1) := by
  rw [readExponent, if_pos (Or.inl rfl)]
  by_cases negative : point ≤ 0
  · rw [if_pos negative, readInteger, readNatural_toDigits, Option.map_some]
    congr 1
    omega
  · rw [if_neg negative, readInteger, readNatural_toDigits, Option.map_some]
    congr 1
    omega

theorem decimalValue_eq {n t : ℕ} {exponent power : ℤ} (same : Nat.ofDigitChars 10 (whole ++ fraction) 0 = 10 ^ t * n)
    (balance : t + exponent - fraction.length = power) : decimalValue whole fraction exponent = n * 10 ^ power := by
  rw [decimalValue, same, ← balance, add_sub_assoc, zpow_add₀ (by norm_num), zpow_natCast]
  push_cast
  ring

theorem isDigit_replicate (n : ℕ) : ∀ c ∈ List.replicate n '0', c.isDigit := by
  intro c member
  rw [List.eq_of_mem_replicate member]
  decide

/-- However it is laid out, a text of digits reads as the same number. -/
theorem readDecimal_layout (all : ∀ c ∈ digits, c.isDigit) (nonempty : digits ≠ []) (point : ℤ) :
    readDecimal (layout digits point) = some ((Nat.ofDigitChars 10 digits 0 : ℚ) * 10 ^ (point - digits.length)) := by
  unfold layout
  split
  · have read := readDecimal_whole (List.forall_mem_append.mpr ⟨all, isDigit_replicate (point - digits.length).toNat⟩)
      (List.append_ne_nil_of_left_ne_nil nonempty _) ends_nil nofun
    rw [List.append_nil] at read
    rw [read, readExponent, Option.map_some, decimalValue_eq (t := (point - digits.length).toNat)]
    · rw [List.append_nil, Nat.ofDigitChars_append, Nat.ofDigitChars_replicate_zero]
    · simp only [List.length_nil]
      omega
  · split
    · next within =>
      have read := @readDecimal_point (digits.take point.toNat) (digits.drop point.toNat) []
        (fun c member => all c (List.mem_of_mem_take member)) (fun c member => all c (List.mem_of_mem_drop member))
        (by rwa [List.take_append_drop]) ends_nil
      rw [List.append_nil] at read
      rw [read, readExponent, Option.map_some, decimalValue_eq (t := 0)]
      · rw [List.take_append_drop, pow_zero, one_mul]
      · rw [List.length_drop]
        omega
    · split
      · next small =>
        have read := @readDecimal_point ['0'] (List.replicate (-point).toNat '0' ++ digits) []
          (List.forall_mem_singleton.mpr (by decide)) (List.forall_mem_append.mpr ⟨isDigit_replicate _, all⟩)
          (List.cons_ne_nil _ _) ends_nil
        rw [List.append_nil] at read
        refine read.trans ?_
        rw [readExponent, Option.map_some, decimalValue_eq (t := 0)]
        · rw [List.singleton_append, ← List.cons_append, ← List.replicate_succ, Nat.ofDigitChars_append,
            Nat.ofDigitChars_replicate_zero, pow_zero, one_mul, Nat.mul_zero]
        · rw [List.length_append, List.length_replicate]
          omega
      · cases digits with
        | nil => exact absurd rfl nonempty
        | cons first others =>
          cases others with
          | nil =>
            refine (readDecimal_whole all nonempty (ends_cons rfl) (by simp)).trans ?_
            rw [readExponent_written, Option.map_some, decimalValue_eq (t := 0)]
            · rw [List.append_nil, pow_zero, one_mul]
            · simp
          | cons second rest =>
            obtain ⟨leading, others⟩ := List.forall_mem_cons.mp all
            have read := @readDecimal_point [first] (second :: rest)
              ('e' :: (if point ≤ 0 then '-' else '+') :: Nat.toDigits 10 (point - 1).natAbs)
              (List.forall_mem_singleton.mpr leading) others (List.cons_ne_nil _ _) (ends_cons rfl)
            refine read.trans ?_
            rw [readExponent_written, Option.map_some, decimalValue_eq (t := 0)]
            · rw [List.singleton_append, pow_zero, one_mul]
            · simp only [List.length_cons]
              omega

end layout

section written

variable {text : List Char} {s : ℕ}

/-- The characters of numerals that are written. -/
def isWrittenChar (c : Char) : Bool := c.isDigit ∨ c ∈ ['.', 'e', '+', '-']

theorem layout_chars {digits : List Char} (all : ∀ c ∈ digits, c.isDigit) (point : ℤ) : ∀ c ∈ layout digits point, isWrittenChar c := by
  have plain : ∀ c ∈ digits, isWrittenChar c := fun c member => decide_eq_true (Or.inl (all c member))
  have zeros (n : ℕ) : ∀ c ∈ List.replicate n '0', isWrittenChar c :=
    fun c member => decide_eq_true (Or.inl (isDigit_replicate n c member))
  have exponent : ∀ c ∈ 'e' :: (if point ≤ 0 then '-' else '+') :: Nat.toDigits 10 (point - 1).natAbs, isWrittenChar c := by
    refine List.forall_mem_cons.mpr ⟨by decide, List.forall_mem_cons.mpr ⟨?_, ?_⟩⟩
    · split <;> decide
    · exact fun c member => decide_eq_true (Or.inl (isDigit_toDigits _ c member))
  unfold layout
  split
  · exact List.forall_mem_append.mpr ⟨plain, zeros _⟩
  · split
    · refine List.forall_mem_append.mpr ⟨fun c member => plain c (List.mem_of_mem_take member), ?_⟩
      exact List.forall_mem_cons.mpr ⟨by decide, fun c member => plain c (List.mem_of_mem_drop member)⟩
    · split
      · exact List.forall_mem_cons.mpr ⟨by decide, List.forall_mem_cons.mpr ⟨by decide, List.forall_mem_append.mpr ⟨zeros _, plain⟩⟩⟩
      · match digits, plain with
        | [], _ => exact exponent
        | [first], plain => exact List.forall_mem_append.mpr ⟨plain, exponent⟩
        | first :: second :: rest, plain =>
          obtain ⟨leading, next, others⟩ := List.forall_mem_cons.mp plain |>.imp_right List.forall_mem_cons.mp
          exact List.forall_mem_cons.mpr ⟨leading, List.forall_mem_cons.mpr ⟨by decide, List.forall_mem_cons.mpr
            ⟨next, List.forall_mem_append.mpr ⟨others, exponent⟩⟩⟩⟩

/-- A text begins with its first digit, or with a zero. -/
theorem layout_head {digits : List Char} (all : ∀ c ∈ digits, c.isDigit) (nonempty : digits ≠ []) (point : ℤ) :
    ∃ first rest, layout digits point = first :: rest ∧ first.isDigit := by
  obtain ⟨first, rest, rfl⟩ := List.exists_cons_of_ne_nil nonempty
  have leading := all first (List.mem_cons_self ..)
  unfold layout
  split
  · exact ⟨first, _, rfl, leading⟩
  · split
    · next within =>
      obtain ⟨n, same⟩ : ∃ n, point.toNat = n + 1 := ⟨point.toNat - 1, by omega⟩
      rw [same]
      exact ⟨first, _, rfl, leading⟩
    · split
      · exact ⟨'0', _, rfl, by decide⟩
      · cases rest with
        | nil => exact ⟨first, _, rfl, leading⟩
        | cons second rest => exact ⟨first, _, rfl, leading⟩

/-- What is written is not taken for another kind of numeral. -/
theorem read_written (chars : ∀ c ∈ text, isWrittenChar c) (starts : ∃ first rest, text = first :: rest ∧ first.isDigit) :
    read text = readSigned false text := by
  obtain ⟨first, rest, rfl, digit⟩ := starts
  unfold read
  split
  · next empty => cases empty
  · next plus =>
    cases plus
    cases digit
  · next minus =>
    cases minus
    cases digit
  · unfold readUnsigned
    split
    · next c others same =>
      cases same
      have decimal : radix c = none := by
        have written := chars c (List.mem_cons_of_mem _ (List.mem_cons_self ..))
        unfold radix
        rw [if_neg, if_neg, if_neg] <;> rintro (rfl | rfl) <;> cases written
      rw [decimal]
    · rfl

theorem readSigned_written {negative : Bool} {x : ℚ} (chars : ∀ c ∈ text, isWrittenChar c) (decimal : readDecimal text = some x) :
    readSigned negative text = .ofRat (if negative then -x else x) := by
  unfold readSigned
  rw [if_neg, decimal]
  rintro rfl
  cases chars 'I' (by decide)

theorem readSigned_digits (negative : Bool) (all : ∀ c ∈ text, c.isDigit) (nonempty : text ≠ []) :
    readSigned negative text = .ofRat (if negative then -(Nat.ofDigitChars 10 text 0 : ℕ) else (Nat.ofDigitChars 10 text 0 : ℕ)) := by
  have chars : ∀ c ∈ text, isWrittenChar c := fun c member => decide_eq_true (Or.inl (all c member))
  have decimal := @readDecimal_whole text [] all nonempty ends_nil nofun
  rw [List.append_nil, readExponent, Option.map_some] at decimal
  rw [readSigned_written chars decimal]
  simp [decimalValue]

theorem read_digits (all : ∀ c ∈ text, c.isDigit) (nonempty : text ≠ []) : read text = .ofRat (Nat.ofDigitChars 10 text 0 : ℕ) := by
  have chars : ∀ c ∈ text, isWrittenChar c := fun c member => decide_eq_true (Or.inl (all c member))
  have signed := readSigned_digits false all nonempty
  obtain ⟨first, rest, rfl⟩ := List.exists_cons_of_ne_nil nonempty
  rw [read_written chars ⟨first, rest, rfl, all first (List.mem_cons_self ..)⟩, signed]
  rfl

theorem toList_toString (n : ℤ) : (toString n).toList = if n < 0 then '-' :: Nat.toDigits 10 n.natAbs else Nat.toDigits 10 n.natAbs := by
  have digits (m : ℕ) : (toString m).toList = Nat.toDigits 10 m := by
    rw [Nat.toString_eq_ofList_toDigits, String.toList_ofList]
  cases n with
  | ofNat m => exact digits m
  | negSucc m =>
    have signed : (toString (Int.negSucc m)).toList = '-' :: (toString (m + 1)).toList := String.toList_append ..
    rw [signed, digits, if_pos (Int.negSucc_lt_zero m), Int.natAbs_negSucc]

/-- What is written of an integer reads as it, rounded. -/
theorem read_intCast (n : ℤ) : read (toString n).toList = .ofRat n := by
  rw [toList_toString]
  split
  · next negative =>
    have value : (n : ℚ) = -(n.natAbs : ℕ) := by
      rw [Nat.cast_natAbs, Int.cast_abs, abs_of_neg (by exact_mod_cast negative), neg_neg]
    rw [read, readSigned_digits true (isDigit_toDigits _) Nat.toDigits_ne_nil, Nat.ofDigitChars_ten_toDigits, if_pos rfl, value]
  · next positive =>
    have value : (n : ℚ) = (n.natAbs : ℕ) := by
      rw [Nat.cast_natAbs, Int.cast_abs, abs_of_nonneg (by exact_mod_cast not_lt.mp positive)]
    rw [read_digits (isDigit_toDigits _) Nat.toDigits_ne_nil, Nat.ofDigitChars_ten_toDigits, value]

theorem toString_chars (n : ℤ) : ∀ c ∈ (toString n).toList, c.isDigit ∨ c = '-' := by
  intro c member
  rw [toList_toString] at member
  split at member
  · rcases List.mem_cons.mp member with sign | digit
    · exact Or.inr sign
    · exact Or.inl (isDigit_toDigits _ c digit)
  · exact Or.inl (isDigit_toDigits _ c member)

theorem toDigits_eq (s : ℕ) : ∃ zeros, Nat.toDigits 10 s = significantDigits s ++ List.replicate zeros '0' := by
  refine ⟨((Nat.toDigits 10 s).rtakeWhile (· = '0')).length, ?_⟩
  have trailing : (Nat.toDigits 10 s).rtakeWhile (· = '0') = List.replicate ((Nat.toDigits 10 s).rtakeWhile (· = '0')).length '0' := by
    refine List.eq_replicate_of_mem fun c member => ?_
    have zero := List.mem_rtakeWhile_imp member
    exact of_decide_eq_true zero
  rw [← trailing]
  exact (List.rdropWhile_append_rtakeWhile ..).symm

theorem isDigit_significantDigits (s : ℕ) : ∀ c ∈ significantDigits s, c.isDigit :=
  fun c member => isDigit_toDigits s c ((List.rdropWhile_prefix _ _).mem member)

theorem significantDigits_ne_nil (positive : 0 < s) : significantDigits s ≠ [] := by
  intro empty
  obtain ⟨zeros, digits⟩ := toDigits_eq s
  have value := @Nat.ofDigitChars_ten_toDigits s
  rw [digits, empty, List.nil_append, Nat.ofDigitChars_replicate_zero] at value
  omega

/-- A numeral denotes its significand times a power of ten. -/
theorem readDecimal_significand (positive : 0 < s) (exponent : ℤ) :
    readDecimal (layout (significantDigits s) ((Nat.toDigits 10 s).length + exponent)) = some ((s : ℚ) * 10 ^ exponent) := by
  obtain ⟨zeros, digits⟩ := toDigits_eq s
  have value := @Nat.ofDigitChars_ten_toDigits s
  rw [digits, Nat.ofDigitChars_append, Nat.ofDigitChars_replicate_zero] at value
  rw [readDecimal_layout (isDigit_significantDigits s) (significantDigits_ne_nil positive), digits]
  congr 1
  have power : ((significantDigits s ++ List.replicate zeros '0').length : ℤ) + exponent - (significantDigits s).length =
      zeros + exponent := by
    rw [List.length_append, List.length_replicate]
    omega
  rw [power, zpow_add₀ (by norm_num), zpow_natCast, ← mul_assoc]
  congr 1
  exact_mod_cast (mul_comm _ _).trans value

theorem writePositive_written (x : ℚ) (positive : 0 < (shortest x).1) :
    (∀ c ∈ writePositive x, isWrittenChar c) ∧ (∃ first rest, writePositive x = first :: rest ∧ first.isDigit) ∧
      readDecimal (writePositive x) = some (((shortest x).1 : ℚ) * 10 ^ (shortest x).2) := by
  have natural : 0 < (shortest x).1.toNat := by omega
  have same : (((shortest x).1.toNat : ℕ) : ℚ) = (shortest x).1 := by exact_mod_cast Int.toNat_of_nonneg positive.le
  have digits := isDigit_significantDigits (shortest x).1.toNat
  refine ⟨layout_chars digits _, layout_head digits (significantDigits_ne_nil natural) _, ?_⟩
  rw [← same]
  exact readDecimal_significand natural _

/-- Every number is read back from its text. -/
theorem read_write (x : Number) : read (write x) = x := by
  cases x with
  | nan => rfl
  | infinity negative => cases negative <;> rfl
  | finite x =>
    rw [write]
    split
    · next zero =>
      have decimal := @readDecimal_whole ['0'] [] (List.forall_mem_singleton.mpr (by decide)) (List.cons_ne_nil _ _) ends_nil nofun
      rw [readExponent, Option.map_some, decimalValue_eq (n := 0) (t := 0) rfl rfl, List.append_nil] at decimal
      refine (read_written (List.forall_mem_singleton.mpr (by decide)) ⟨'0', [], rfl, by decide⟩).trans ?_
      refine (readSigned_written (List.forall_mem_singleton.mpr (by decide)) decimal).trans (Number.ofRat_eq ?_)
      have mem := x.mem
      rw [zero] at mem ⊢
      simpa using round_eq mem
    · split
      · next nonzero negative =>
        have positive : 0 < -x.value := by linarith
        have mem := neg_mem_grid x.mem
        obtain ⟨chars, -, decimal⟩ := writePositive_written _ (shortest_pos mem positive)
        refine (@readSigned_written _ true _ chars decimal).trans (Number.ofRat_eq ?_)
        rw [if_pos rfl, round_neg, round_shortest mem positive, neg_neg]
      · next nonzero nonnegative =>
        have positive : 0 < x.value := lt_of_le_of_ne (not_lt.mp nonnegative) (Ne.symm nonzero)
        obtain ⟨chars, starts, decimal⟩ := writePositive_written _ (shortest_pos x.mem positive)
        refine (read_written chars starts).trans ((readSigned_written chars decimal).trans (Number.ofRat_eq ?_))
        exact round_shortest x.mem positive

theorem write_injective : Function.Injective write := Function.LeftInverse.injective read_write

end written

section naturals

variable {n s : ℕ}

theorem scale_natCast (n : ℕ) : scale n = (Nat.log 10 n + 1 : ℕ) := by
  rw [scale, Int.log_natCast]
  rfl

theorem round_natCast (small : n ≤ 2 ^ 53) : round n = n := by
  refine round_eq ?_
  have integer : |(n : ℤ)| ≤ 2 ^ 53 := by
    rw [Nat.abs_cast]
    exact_mod_cast small
  exact_mod_cast grid_int integer

theorem roundHalfEven_natCast (n : ℕ) : roundHalfEven n = n := by
  rw [roundHalfEven_below]
  · exact Int.floor_natCast n
  · rw [Int.floor_natCast]
    norm_num

theorem log_natCast_lt (small : n < 2 ^ 53) : Nat.log 10 n < 16 := by
  by_cases zero : n = 0
  · rw [zero, Nat.log_zero_right]
    decide
  · exact Nat.log_lt_of_lt_pow zero (small.trans (by decide))

/-- All of its digits are enough for an integer. -/
theorem precision_natCast (small : n < 2 ^ 53) : precision n ≤ Nat.log 10 n + 1 := by
  have enough : (significand n (Nat.log 10 n + 1)).isSome := by
    refine List.find?_isSome.mpr ⟨roundHalfEven n, ?_, decide_eq_true ?_⟩
    · rw [scale_natCast, sub_self, zpow_zero, div_one]
      exact List.mem_cons_self ..
    · rw [scale_natCast, sub_self, zpow_zero, mul_one, roundHalfEven_natCast]
      exact_mod_cast round_natCast small.le
  have few := log_natCast_lt small
  unfold precision
  cases found : (List.range' 1 17).find? fun digits => (significand n digits).isSome with
  | none =>
    refine absurd enough (List.find?_eq_none.mp found _ ?_)
    rw [List.mem_range'_1]
    omega
  | some digits =>
    obtain ⟨-, -, least⟩ := List.find?_range'_eq_some.mp found
    by_contra more
    have missing := least (Nat.log 10 n + 1) (Nat.le_add_left ..) (not_le.mp more)
    rw [enough] at missing
    cases missing

/-- The shortest numeral of an integer is exact. -/
theorem shortest_natCast (positive : 0 < n) (small : n < 2 ^ 53) :
    ∃ j : ℕ, (shortest n).2 = j ∧ 0 < (shortest n).1.toNat ∧ n = (shortest n).1.toNat * 10 ^ j := by
  have mem : (n : ℚ) ∈ grid := by
    rw [← round_natCast small.le]
    exact round_mem n
  have positive' : (0 : ℚ) < n := by exact_mod_cast positive
  have significand := shortest_pos mem positive'
  have rounded := round_shortest mem positive'
  obtain ⟨j, exponent⟩ : ∃ j : ℕ, (shortest n).2 = j := by
    have few := precision_natCast small
    refine ⟨Nat.log 10 n + 1 - precision n, ?_⟩
    rw [shortest, scale_natCast]
    omega
  refine ⟨j, exponent, by omega, ?_⟩
  have integer : (((shortest n).1.toNat * 10 ^ j : ℕ) : ℚ) = (shortest n).1 * 10 ^ (shortest n).2 := by
    have nonneg : (((shortest n).1.toNat : ℕ) : ℚ) = (shortest n).1 := by exact_mod_cast Int.toNat_of_nonneg significand.le
    rw [exponent, zpow_natCast, ← nonneg]
    push_cast
    rfl
  rw [← integer] at rounded
  by_cases fits : (shortest n).1.toNat * 10 ^ j ≤ 2 ^ 53
  · rw [round_natCast fits] at rounded
    exact_mod_cast rounded.symm
  · have beyond : ((2 ^ 53 : ℕ) : ℚ) ≤ ((shortest n).1.toNat * 10 ^ j : ℕ) := by exact_mod_cast (not_le.mp fits).le
    have least := round_mono beyond
    rw [round_natCast le_rfl, rounded] at least
    exact absurd small (not_lt.mpr (by exact_mod_cast least))

theorem toDigits_mul_pow (positive : 0 < s) (j : ℕ) : Nat.toDigits 10 (s * 10 ^ j) = Nat.toDigits 10 s ++ List.replicate j '0' := by
  induction j with
  | zero => simp
  | succ j ih =>
    have digits := @Nat.toDigits_append_toDigits 10 (s * 10 ^ j) 0 (by decide) (by positivity) (by decide)
    rw [Nat.add_zero, ih, Nat.toDigits_zero, List.append_assoc, ← List.replicate_succ'] at digits
    rw [digits]
    congr 1
    ring

/-- An integer is written with its digits. -/
theorem write_natCast (small : n < 2 ^ 53) : write (.ofRat n) = Nat.toDigits 10 n := by
  obtain ⟨double, finite, value⟩ := Number.ofNat_is small.le
  rw [finite, write, value]
  split
  · next zero =>
    have empty : n = 0 := by exact_mod_cast zero
    rw [empty, Nat.toDigits_zero]
  · next nonzero =>
    have positive : 0 < n := Nat.pos_of_ne_zero fun zero => nonzero (by exact_mod_cast zero)
    obtain ⟨j, exponent, leading, exact⟩ := shortest_natCast positive small
    obtain ⟨zeros, digits⟩ := toDigits_eq (shortest n).1.toNat
    have whole : Nat.toDigits 10 n = significantDigits (shortest n).1.toNat ++ List.replicate (zeros + j) '0' := by
      rw [List.replicate_add, ← List.append_assoc, ← digits, ← toDigits_mul_pow leading, ← exact]
    have few : (Nat.toDigits 10 n).length ≤ 16 := (Nat.length_toDigits_le_iff (by decide) (by decide)).mpr (small.trans (by decide))
    rw [whole, List.length_append, List.length_replicate] at few
    rw [if_neg (by exact_mod_cast Nat.not_lt_zero n), whole]
    simp only [writePositive, exponent, digits, layout, List.length_append, List.length_replicate]
    rw [if_pos]
    · congr 2
      omega
    · omega

end naturals

end Numeral
