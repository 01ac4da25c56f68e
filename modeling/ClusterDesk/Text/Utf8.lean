/-!
Text as bytes. A byte sequence is read as characters and broken pieces; text is well-formed when
nothing is broken, and may otherwise be shown with a replacement character for each broken piece.
-/

namespace ClusterDesk.Utf8

/-- What a byte sequence is made of: characters, and longest beginnings of none. -/
inductive Piece where
  | char (c : Char)
  | broken
  deriving DecidableEq, Repr

def encode (text : String) : List UInt8 := text.toByteArray.data.toList

def decode? (bytes : List UInt8) : Option String := String.fromUTF8? ⟨bytes.toArray⟩

/-- How many bytes follow the lead byte, and the range of the first of them. -/
def shape (lead : UInt8) : Option (Nat × UInt8 × UInt8) :=
  if lead < 0x80 then some (0, 0, 0)
  else if 0xc2 ≤ lead && lead ≤ 0xdf then some (1, 0x80, 0xbf)
  else if lead = 0xe0 then some (2, 0xa0, 0xbf)
  else if lead = 0xed then some (2, 0x80, 0x9f)
  else if 0xe1 ≤ lead && lead ≤ 0xef then some (2, 0x80, 0xbf)
  else if lead = 0xf0 then some (3, 0x90, 0xbf)
  else if 0xf1 ≤ lead && lead ≤ 0xf3 then some (3, 0x80, 0xbf)
  else if lead = 0xf4 then some (3, 0x80, 0x8f)
  else none

def join (high : Nat) (low : UInt8) : Nat := high * 64 + low.toNat % 64

/-- Reads up to the next lead byte; `need` more bytes are expected, the next of them between
`lower` and `upper`. -/
def piecesFrom (need code : Nat) (lower upper : UInt8) : List UInt8 → List Piece
  | [] => if need = 0 then [] else [.broken]
  | byte :: rest =>
    if need = 0 then
      match shape byte with
      | none => .broken :: piecesFrom 0 0 0 0 rest
      | some (0, _, _) => .char (Char.ofNat byte.toNat) :: piecesFrom 0 0 0 0 rest
      | some (1, low, high) => piecesFrom 1 (byte.toNat % 32) low high rest
      | some (2, low, high) => piecesFrom 2 (byte.toNat % 16) low high rest
      | some (n, low, high) => piecesFrom n (byte.toNat % 8) low high rest
    else if lower ≤ byte && byte ≤ upper then
      if need = 1 then .char (Char.ofNat (join code byte)) :: piecesFrom 0 0 0 0 rest
      else piecesFrom (need - 1) (join code byte) 0x80 0xbf rest
    else
      .broken ::
        match shape byte with
        | none => .broken :: piecesFrom 0 0 0 0 rest
        | some (0, _, _) => .char (Char.ofNat byte.toNat) :: piecesFrom 0 0 0 0 rest
        | some (1, low, high) => piecesFrom 1 (byte.toNat % 32) low high rest
        | some (2, low, high) => piecesFrom 2 (byte.toNat % 16) low high rest
        | some (n, low, high) => piecesFrom n (byte.toNat % 8) low high rest

def pieces (bytes : List UInt8) : List Piece :=
  match decode? bytes with
  | some text => text.toList.map .char
  | none => piecesFrom 0 0 0 0 bytes

/-- Broken pieces are shown as U+FFFD. -/
def decodeLossy (bytes : List UInt8) : String :=
  String.ofList <| (pieces bytes).map fun piece =>
    match piece with
    | .char c => c
    | .broken => '\ufffd'

theorem decode?_encode (text : String) : decode? (encode text) = some text := by
  have valid : (⟨text.toByteArray.data⟩ : ByteArray).IsValidUTF8 := text.isValidUTF8
  simp [decode?, encode, String.fromUTF8?, String.fromUTF8, valid]

theorem pieces_encode (text : String) : pieces (encode text) = text.toList.map .char := by
  simp [pieces, decode?_encode]

end ClusterDesk.Utf8
