import Mathlib.Tactic.Common

namespace Base64

/-- The digits of 0 to 63. -/
def digit (value : Nat) : Char :=
  if value < 26 then .ofNat (value + 65)
  else if value < 52 then .ofNat (value + 71)
  else if value < 62 then .ofNat (value - 4)
  else if value = 62 then '+'
  else '/'

/-- Digits of the URL alphabet are read as well. -/
def value (digit : Char) : Option Nat :=
  if digit.isUpper then some (digit.toNat - 65)
  else if digit.isLower then some (digit.toNat - 71)
  else if digit.isDigit then some (digit.toNat + 4)
  else if digit = '+' ∨ digit = '-' then some 62
  else if digit = '/' ∨ digit = '_' then some 63
  else none

/-- Four digits for three bytes; a shorter last group is padded. -/
def encode : List UInt8 → List Char
  | a :: b :: c :: rest =>
    digit (a.toNat / 4) :: digit (a.toNat % 4 * 16 + b.toNat / 16) :: digit (b.toNat % 16 * 4 + c.toNat / 64) ::
      digit (c.toNat % 64) :: encode rest
  | [a, b] => [digit (a.toNat / 4), digit (a.toNat % 4 * 16 + b.toNat / 16), digit (b.toNat % 16 * 4), '=']
  | [a] => [digit (a.toNat / 4), digit (a.toNat % 4 * 16), '=', '=']
  | [] => []

/-- The whole bytes of a sequence of six-bit groups. -/
def bytes : List Nat → List UInt8
  | p :: q :: r :: s :: rest => .ofNat (p * 4 + q / 16) :: .ofNat (q % 16 * 16 + r / 4) :: .ofNat (r % 4 * 64 + s) :: bytes rest
  | [p, q, r] => [.ofNat (p * 4 + q / 16), .ofNat (q % 16 * 16 + r / 4)]
  | [p, q] => [.ofNat (p * 4 + q / 16)]
  | _ => []

/-- Characters that are no digits are passed over. -/
def decode (text : List Char) : List UInt8 := bytes (text.filterMap value)

theorem value_digit : ∀ n < 64, value (digit n) = some n := by decide

theorem value_pad : value '=' = none := by decide

section groups

variable (octet : UInt8)

theorem ofNat_high {n : Nat} (bound : n < 16) :
    UInt8.ofNat (octet.toNat / 4 * 4 + (octet.toNat % 4 * 16 + n) / 16) = octet := by
  have same : octet.toNat / 4 * 4 + (octet.toNat % 4 * 16 + n) / 16 = octet.toNat := by omega
  rw [same, UInt8.ofNat_toNat]

theorem ofNat_middle (previous : Nat) {n : Nat} (bound : n < 4) :
    UInt8.ofNat ((previous * 16 + octet.toNat / 16) % 16 * 16 + (octet.toNat % 16 * 4 + n) / 4) = octet := by
  have range := octet.toNat_lt
  have same : (previous * 16 + octet.toNat / 16) % 16 * 16 + (octet.toNat % 16 * 4 + n) / 4 = octet.toNat := by omega
  rw [same, UInt8.ofNat_toNat]

theorem ofNat_low (previous : Nat) :
    UInt8.ofNat ((previous * 4 + octet.toNat / 64) % 4 * 64 + octet.toNat % 64) = octet := by
  have range := octet.toNat_lt
  have same : (previous * 4 + octet.toNat / 64) % 4 * 64 + octet.toNat % 64 = octet.toNat := by omega
  rw [same, UInt8.ofNat_toNat]

end groups

@[simp] theorem decode_encode (octets : List UInt8) : decode (encode octets) = octets := by
  unfold decode
  induction octets using encode.induct with
  | case1 a b c rest ih =>
    have boundA := a.toNat_lt
    have boundB := b.toNat_lt
    have boundC := c.toNat_lt
    rw [encode, List.filterMap_cons_some (value_digit _ (by omega)), List.filterMap_cons_some (value_digit _ (by omega)),
      List.filterMap_cons_some (value_digit _ (by omega)), List.filterMap_cons_some (value_digit _ (by omega)), bytes,
      ofNat_high a (by omega), ofNat_middle b _ (by omega), ofNat_low c, ih]
  | case2 a b =>
    have boundA := a.toNat_lt
    have boundB := b.toNat_lt
    rw [encode, List.filterMap_cons_some (value_digit _ (by omega)), List.filterMap_cons_some (value_digit _ (by omega)),
      List.filterMap_cons_some (value_digit _ (by omega)), List.filterMap_cons_none value_pad, List.filterMap_nil, bytes,
      ofNat_high a (by omega)]
    exact congrArg (a :: [·]) (ofNat_middle b _ (n := 0) (by omega))
  | case3 a =>
    have boundA := a.toNat_lt
    rw [encode, List.filterMap_cons_some (value_digit _ (by omega)), List.filterMap_cons_some (value_digit _ (by omega)),
      List.filterMap_cons_none value_pad, List.filterMap_cons_none value_pad, List.filterMap_nil, bytes]
    exact congrArg ([·]) (ofNat_high a (n := 0) (by omega))
  | case4 => rfl

end Base64
