/-!
Bytes as pairs of hexadecimal digits. Main statement: reading gives back what was written.
-/

namespace ClusterDesk.Hex

def digit (n : Nat) : Char := if n < 10 then Char.ofNat (48 + n) else Char.ofNat (87 + n)

def digitValue? (c : Char) : Option Nat :=
  if '0' ≤ c ∧ c ≤ '9' then some (c.toNat - 48)
  else if 'a' ≤ c ∧ c ≤ 'f' then some (c.toNat - 87)
  else if 'A' ≤ c ∧ c ≤ 'F' then some (c.toNat - 55)
  else none

def encodeByte (byte : UInt8) : List Char := [digit (byte.toNat / 16), digit (byte.toNat % 16)]

def encode (bytes : List UInt8) : String := String.ofList (bytes.flatMap encodeByte)

def joined (upper lower : Nat) : UInt8 := UInt8.ofNat (upper * 16 + lower)

def decodeChars? : List Char → Option (List UInt8)
  | [] => some []
  | high :: low :: rest => do
    let upper ← digitValue? high
    let lower ← digitValue? low
    return joined upper lower :: (← decodeChars? rest)
  | [_] => none

def decode? (text : String) : Option (List UInt8) := decodeChars? text.toList

theorem digitValue?_digit : ∀ n < 16, digitValue? (digit n) = some n := by decide

theorem joined_halves (byte : UInt8) : joined (byte.toNat / 16) (byte.toNat % 16) = byte := by
  have whole : byte.toNat / 16 * 16 + byte.toNat % 16 = byte.toNat := by omega
  rw [joined, whole, UInt8.ofNat_toNat]

theorem decodeChars?_encode (bytes : List UInt8) :
    decodeChars? (bytes.flatMap encodeByte) = some bytes := by
  induction bytes with
  | nil => rfl
  | cons byte rest ih =>
    have bound := byte.toNat_lt
    have upper := digitValue?_digit (byte.toNat / 16) (by omega)
    have lower := digitValue?_digit (byte.toNat % 16) (by omega)
    simp [encodeByte, decodeChars?, upper, lower, ih, joined_halves]

theorem decode?_encode (bytes : List UInt8) : decode? (encode bytes) = some bytes := by
  simp [decode?, encode, decodeChars?_encode]

end ClusterDesk.Hex
