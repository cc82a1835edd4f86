/-!
# Numbers and bytes in base 16

Codes of the native layer and tags of records are written in base 16, with a mark in front and
without leading zeros. Bytes are written as two digits each, and read back as the same bytes.
-/

namespace CommandStream

/-- The digits of a number in base 16, behind the mark `0x`. -/
def hexadecimal (number : Nat) : String :=
  "0x" ++ String.ofList (Nat.toDigits 16 number)

namespace Hexadecimal

/-- The value of a digit; letters are lower-case. -/
def digitValue? (digit : Char) : Option Nat :=
  if '0' ≤ digit ∧ digit ≤ '9' then some (digit.toNat - '0'.toNat)
  else if 'a' ≤ digit ∧ digit ≤ 'f' then some (digit.toNat - 'a'.toNat + 10)
  else none

/-- The digits of bytes, two for each. -/
def encode (bytes : List UInt8) : List Char :=
  bytes.flatMap fun byte => [Nat.digitChar (byte.toNat / 16), Nat.digitChar (byte.toNat % 16)]

/-- The bytes that digits stand for, unless one is no digit or the last has no partner. -/
def decode : List Char → Option (List UInt8)
  | [] => some []
  | [_] => none
  | high :: low :: later => do
    let highValue ← digitValue? high
    let lowValue ← digitValue? low
    let bytes ← decode later
    return UInt8.ofNat (16 * highValue + lowValue) :: bytes

theorem digitValue?_digitChar : ∀ value < 16, digitValue? (Nat.digitChar value) = some value := by
  decide

/-- Bytes are read back from their digits. -/
theorem decode_encode (bytes : List UInt8) : decode (encode bytes) = some bytes := by
  induction bytes with
  | nil => rfl
  | cons byte later inductionHypothesis =>
    have bound := byte.toNat_lt
    have high := digitValue?_digitChar (byte.toNat / 16) (by omega)
    have low := digitValue?_digitChar (byte.toNat % 16) (by omega)
    have parts : 16 * (byte.toNat / 16) + byte.toNat % 16 = byte.toNat := by omega
    have whole : UInt8.ofNat (16 * (byte.toNat / 16) + byte.toNat % 16) = byte := by
      rw [parts, UInt8.ofNat_toNat]
    rw [encode, List.flatMap_cons, ← encode]
    simp only [List.cons_append, List.nil_append, decode, high, low, inductionHypothesis,
      Option.bind_eq_bind, Option.bind_some, Option.pure_def, whole]

end Hexadecimal

end CommandStream
