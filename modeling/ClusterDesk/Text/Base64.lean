/-!
Bytes written with the 64 letters of the standard alphabet, four letters to three bytes, padded
to a multiple of four. Main statement: reading gives back what was written.
-/

namespace ClusterDesk.Base64

def letter (n : Nat) : Char :=
  if n < 26 then Char.ofNat (65 + n)
  else if n < 52 then Char.ofNat (97 + (n - 26))
  else if n < 62 then Char.ofNat (48 + (n - 52))
  else if n = 62 then '+' else '/'

def value? (c : Char) : Option Nat :=
  let n := c.toNat
  if 65 ≤ n ∧ n ≤ 90 then some (n - 65)
  else if 97 ≤ n ∧ n ≤ 122 then some (n - 97 + 26)
  else if 48 ≤ n ∧ n ≤ 57 then some (n - 48 + 52)
  else if c = '+' then some 62
  else if c = '/' then some 63
  else none

def encode : List UInt8 → List Char
  | [] => []
  | [a] => [letter (a.toNat / 4), letter (a.toNat % 4 * 16), '=', '=']
  | [a, b] =>
    [letter (a.toNat / 4), letter (a.toNat % 4 * 16 + b.toNat / 16), letter (b.toNat % 16 * 4), '=']
  | a :: b :: c :: rest =>
    letter (a.toNat / 4) :: letter (a.toNat % 4 * 16 + b.toNat / 16) ::
      letter (b.toNat % 16 * 4 + c.toNat / 64) :: letter (c.toNat % 64) :: encode rest

/-- Only padded text whose unused bits are zero is accepted. -/
def decode? : List Char → Option (List UInt8)
  | [] => some []
  | [p, q, '=', '='] => do
    let a ← value? p
    let b ← value? q
    if b % 16 = 0 then some [UInt8.ofNat (a * 4 + b / 16)] else none
  | [p, q, r, '='] => do
    let a ← value? p
    let b ← value? q
    let c ← value? r
    if c % 4 = 0 then
      some [UInt8.ofNat (a * 4 + b / 16), UInt8.ofNat (b % 16 * 16 + c / 4)]
    else none
  | p :: q :: r :: s :: rest => do
    let a ← value? p
    let b ← value? q
    let c ← value? r
    let d ← value? s
    let tail ← decode? rest
    some (UInt8.ofNat (a * 4 + b / 16) :: UInt8.ofNat (b % 16 * 16 + c / 4) ::
      UInt8.ofNat (c % 4 * 64 + d) :: tail)
  | _ => none

theorem value?_letter : ∀ n < 64, value? (letter n) = some n := by decide

theorem letter_ne_pad {n : Nat} (bound : n < 64) : letter n ≠ '=' := by
  intro same
  have read := value?_letter n bound
  rw [same] at read
  cases read

theorem decode?_group {p q r s : Nat} (rest : List Char) (pBound : p < 64) (qBound : q < 64)
    (rBound : r < 64) (sBound : s < 64) :
    decode? (letter p :: letter q :: letter r :: letter s :: rest) =
      (decode? rest).map fun tail =>
        UInt8.ofNat (p * 4 + q / 16) :: UInt8.ofNat (q % 16 * 16 + r / 4) ::
          UInt8.ofNat (r % 4 * 64 + s) :: tail := by
  have unpadded := letter_ne_pad sBound
  rw [decode?]
  · rw [value?_letter p pBound, value?_letter q qBound, value?_letter r rBound,
      value?_letter s sBound]
    cases decode? rest <;> rfl
  · intro _ padded _
    exact unpadded padded
  · intro padded _
    exact unpadded padded

theorem ofNat_eq (byte : UInt8) {n : Nat} (same : n = byte.toNat) : UInt8.ofNat n = byte := by
  rw [same, UInt8.ofNat_toNat]

theorem ofNat_first (a b : UInt8) :
    UInt8.ofNat (a.toNat / 4 * 4 + (a.toNat % 4 * 16 + b.toNat / 16) / 16) = a := by
  have bBound := b.toNat_lt
  exact ofNat_eq a (by omega)

/-- Reading gives back what was written. -/
theorem decode?_encode (bytes : List UInt8) : decode? (encode bytes) = some bytes := by
  fun_induction encode bytes with
  | case1 => rfl
  | case2 a =>
    have aBound := a.toNat_lt
    have first := value?_letter (a.toNat / 4) (by omega)
    have second := value?_letter (a.toNat % 4 * 16) (by omega)
    have unused : a.toNat % 4 * 16 % 16 = 0 := by omega
    have whole := ofNat_eq a (show a.toNat / 4 * 4 + a.toNat % 4 * 16 / 16 = _ by omega)
    simp only [decode?, first, second, Option.bind_eq_bind, Option.bind_some, if_pos unused, whole]
  | case3 a b =>
    have aBound := a.toNat_lt
    have bBound := b.toNat_lt
    have first := value?_letter (a.toNat / 4) (by omega)
    have second := value?_letter (a.toNat % 4 * 16 + b.toNat / 16) (by omega)
    have third := value?_letter (b.toNat % 16 * 4) (by omega)
    have unused : b.toNat % 16 * 4 % 4 = 0 := by omega
    have lower := ofNat_eq b
      (show (a.toNat % 4 * 16 + b.toNat / 16) % 16 * 16 + b.toNat % 16 * 4 / 4 = _ by omega)
    have unpadded := letter_ne_pad (n := b.toNat % 16 * 4) (by omega)
    rw [decode?]
    · simp only [first, second, third, Option.bind_eq_bind, Option.bind_some, if_pos unused,
        ofNat_first, lower]
    · exact unpadded
  | case4 a b c rest ih =>
    have aBound := a.toNat_lt
    have bBound := b.toNat_lt
    have cBound := c.toNat_lt
    have second := ofNat_eq b
      (show (a.toNat % 4 * 16 + b.toNat / 16) % 16 * 16 +
        (b.toNat % 16 * 4 + c.toNat / 64) / 4 = _ by omega)
    have third := ofNat_eq c
      (show (b.toNat % 16 * 4 + c.toNat / 64) % 4 * 64 + c.toNat % 64 = _ by omega)
    rw [decode?_group _ (by omega) (by omega) (by omega) (by omega), ih, ofNat_first, second,
      third]
    rfl

end ClusterDesk.Base64
