import FoodDelivery.Lib.Hexadecimal

namespace Percent

variable {keep : UInt8 → Bool}

def encodeByte (keep : UInt8 → Bool) (octet : UInt8) : List Char :=
  if keep octet then [.ofNat octet.toNat]
  else ['%', (octet.toNat / 16).digitChar.toUpper, (octet.toNat % 16).digitChar.toUpper]

/-- Writes some bytes as the characters they stand for and all others as a
percent sign and two digits. -/
def encode (keep : UInt8 → Bool) (bytes : List UInt8) : List Char := bytes.flatMap (encodeByte keep)

/-- Characters that are not escaped stand for their own encoding. -/
def decode : List Char → Option (List UInt8)
  | [] => some []
  | '%' :: high :: low :: rest =>
    match Hexadecimal.byte high low with
    | some octet => (decode rest).map (octet :: ·)
    | none => none
  | character :: rest =>
    if character = '%' then none else (decode rest).map (String.utf8EncodeChar character ++ ·)

theorem decode_plain {character : Char} (plain : character ≠ '%') (rest : List Char) :
    decode (character :: rest) = (decode rest).map (String.utf8EncodeChar character ++ ·) := by
  rw [decode, if_neg plain]
  rintro high low others rfl
  exact absurd rfl plain

/-- A byte that is kept stands for itself and is not taken for an escape. -/
def Kept (keep : UInt8 → Bool) : Prop := ∀ octet, keep octet →
  String.utf8EncodeChar (.ofNat octet.toNat) = [octet] ∧ Char.ofNat octet.toNat ≠ '%'

theorem byte_upper (octet : UInt8) :
    Hexadecimal.byte (octet.toNat / 16).digitChar.toUpper (octet.toNat % 16).digitChar.toUpper = some octet := by
  have digits : ∀ digit < 16, Hexadecimal.value digit.digitChar.toUpper = some digit := by decide
  have bound := octet.toNat_lt
  rw [Hexadecimal.byte, digits _ (by omega), digits _ (by omega)]
  simp only [Nat.div_add_mod, UInt8.ofNat_toNat]

theorem decode_encode (kept : Kept keep) (bytes : List UInt8) : decode (encode keep bytes) = some bytes := by
  induction bytes with
  | nil => rfl
  | cons octet rest ih =>
    rw [encode, List.flatMap_cons, ← encode, encodeByte]
    split
    · rename_i keeps
      obtain ⟨own, plain⟩ := kept octet keeps
      rw [List.singleton_append, decode_plain plain, ih, own]
      rfl
    · simp only [List.cons_append, List.nil_append, decode, byte_upper, ih, Option.map_some]

theorem forall_mem_encode {P : Char → Prop} (each : ∀ octet, ∀ character ∈ encodeByte keep octet, P character)
    (bytes : List UInt8) : ∀ character ∈ encode keep bytes, P character := by
  intro character member
  obtain ⟨octet, -, inByte⟩ := List.mem_flatMap.mp member
  exact each octet character inByte

end Percent
