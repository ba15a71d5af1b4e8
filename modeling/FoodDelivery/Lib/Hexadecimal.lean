import Mathlib.Tactic.Common

namespace Hexadecimal

/-- A digit of either case. -/
def value (digit : Char) : Option Nat :=
  if digit.isDigit then some (digit.toNat - 48)
  else if 'a' ≤ digit ∧ digit ≤ 'f' then some (digit.toNat - 87)
  else if 'A' ≤ digit ∧ digit ≤ 'F' then some (digit.toNat - 55)
  else none

def isDigit (character : Char) : Bool := (value character).isSome

def byte (high low : Char) : Option UInt8 :=
  match value high, value low with
  | some high, some low => some (.ofNat (16 * high + low))
  | _, _ => none

/-- Two digits for each byte. -/
def encode (bytes : List UInt8) : List Char :=
  bytes.flatMap fun byte => [(byte.toNat / 16).digitChar, (byte.toNat % 16).digitChar]

/-- Reading stops at the first pair that is not one of digits. -/
def decode : List Char → List UInt8
  | high :: low :: rest =>
    match byte high low with
    | some byte => byte :: decode rest
    | none => []
  | _ => []

theorem value_digitChar : ∀ digit < 16, value digit.digitChar = some digit := by decide

@[simp] theorem byte_digitChars (octet : UInt8) :
    byte (octet.toNat / 16).digitChar (octet.toNat % 16).digitChar = some octet := by
  have bound := octet.toNat_lt
  rw [byte, value_digitChar _ (by omega), value_digitChar _ (by omega)]
  simp only [Nat.div_add_mod, UInt8.ofNat_toNat]

@[simp] theorem decode_encode (bytes : List UInt8) : decode (encode bytes) = bytes := by
  induction bytes with
  | nil => rfl
  | cons octet rest ih =>
    rw [encode, List.flatMap_cons, ← encode]
    simp only [List.cons_append, List.nil_append, decode, byte_digitChars, ih]

theorem value_of_mem_encode {digit : Char} {bytes : List UInt8} (member : digit ∈ encode bytes) : (value digit).isSome := by
  obtain ⟨octet, -, written⟩ := List.mem_flatMap.mp member
  have bound := octet.toNat_lt
  rcases List.mem_cons.mp written with rfl | low
  · rw [value_digitChar _ (by omega)]
    rfl
  · rw [List.mem_singleton.mp low, value_digitChar _ (by omega)]
    rfl

@[simp] theorem value_toLower (digit : Char) : value digit.toLower = value digit := by
  by_cases ascii : digit.toNat < 128
  · have small : ∀ code < 128, value (Char.ofNat code).toLower = value (Char.ofNat code) := by decide
    have same := small _ ascii
    rwa [Char.ofNat_toNat] at same
  · have same : digit.toLower = digit := by
      refine dif_neg ?_
      rintro ⟨-, upper⟩
      exact ascii (Nat.lt_of_le_of_lt (UInt32.le_iff_toNat_le.mp upper) (by decide))
    rw [same]

/-- Digits of either case are read alike. -/
theorem decode_toLower (text : List Char) : decode (text.map Char.toLower) = decode text := by
  induction text using decode.induct with
  | case1 high low rest octet read ih =>
    simp only [List.map_cons, decode, byte, value_toLower]
    simp only [byte] at read
    rw [read, ih]
  | case2 high low rest read =>
    simp only [List.map_cons, decode, byte, value_toLower]
    simp only [byte] at read
    rw [read]
  | case3 text short =>
    match text, short with
    | [], _ => rfl
    | [_], _ => rfl
    | high :: low :: rest, short => exact absurd rfl (short high low rest)

end Hexadecimal
