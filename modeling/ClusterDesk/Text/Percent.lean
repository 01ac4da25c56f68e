import ClusterDesk.Text.Hex
import ClusterDesk.Text.Utf8

/-!
Text in which some bytes stand as a percent sign and two hexadecimal digits.
-/

namespace ClusterDesk.Percent

def escapeByte (byte : UInt8) : List Char :=
  '%' :: (Hex.encodeByte byte).map Char.toUpper

/-- Controls and everything that is not ASCII. -/
def isControl (c : Char) : Bool := decide (c.toNat < 32 ∨ 127 ≤ c.toNat)

/-- Escapes controls, everything that is not ASCII, and the characters of `special`. -/
def encode (special : String) (text : List Char) : List Char :=
  text.flatMap fun c =>
    if isControl c || special.toList.contains c then
      (Utf8.encode (String.singleton c)).flatMap escapeByte
    else [c]

/-- The bytes of a text; a percent sign without two digits stands for itself. -/
def decode : List Char → List UInt8
  | '%' :: a :: b :: rest =>
    match Hex.digitValue? a, Hex.digitValue? b with
    | some high, some low => (high * 16 + low).toUInt8 :: decode rest
    | _, _ => 37 :: decode (a :: b :: rest)
  | c :: rest => Utf8.encode (String.singleton c) ++ decode rest
  | [] => []

end ClusterDesk.Percent
