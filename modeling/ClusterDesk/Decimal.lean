/-!
Double-precision numbers and their decimal text. A number is written with the fewest digits that
read back; reading keeps as many digits as fit 64 bits and scales them by a power of ten.
-/

namespace ClusterDesk

/-- A double-precision number, by its bits. -/
structure Double where
  bits : UInt64
  deriving DecidableEq, Repr, Inhabited

namespace Double

def ofFloat (x : Float) : Double := ⟨x.toBits⟩

def negative (x : Double) : Bool := decide (x.bits.toNat / Nat.pow 2 63 = 1)

def biased (x : Double) : Nat := x.bits.toNat / Nat.pow 2 52 % Nat.pow 2 11

def fraction (x : Double) : Nat := x.bits.toNat % Nat.pow 2 52

/-- The integer `m` of a magnitude `m * 2 ^ q`. -/
def mantissa (x : Double) : Nat := if x.biased = 0 then x.fraction else Nat.pow 2 52 + x.fraction

/-- The exponent `q` of a magnitude `m * 2 ^ q`. -/
def scale (x : Double) : Int := (max x.biased 1 : Nat) - 1075

/-- The digits `digits * 10 ^ exponent`. -/
structure Digits where
  digits : Nat
  exponent : Int
  deriving DecidableEq, Repr

/-- The magnitudes that round to a number, as multiples of `1 / unit`. -/
structure Interval where
  low : Nat
  middle : Nat
  high : Nat
  unit : Nat
  closed : Bool

def interval (x : Double) : Interval :=
  let m := x.mantissa
  let below := if x.fraction = 0 ∧ 1 < x.biased then 1 else 2
  let shift := x.scale - 2
  let factor := Nat.pow 2 shift.toNat
  { low := (4 * m - below) * factor
    middle := 4 * m * factor
    high := (4 * m + 2) * factor
    unit := Nat.pow 2 (-shift).toNat
    closed := m % 2 = 0 }

/-- Whether `digits * 10 ^ exponent` rounds to the number. -/
def Interval.contains (range : Interval) (digits : Nat) (exponent : Int) : Bool :=
  let value := digits * Nat.pow 10 exponent.toNat * range.unit
  let rescale := Nat.pow 10 (-exponent).toNat
  if range.closed then decide (range.low * rescale ≤ value ∧ value ≤ range.high * rescale)
  else decide (range.low * rescale < value ∧ value < range.high * rescale)

/-- Of the two neighbours on the grid `10 ^ exponent`, the nearer one that reads back. -/
def Interval.onGrid (range : Interval) (exponent : Int) : Option Nat :=
  let step := Nat.pow 10 exponent.toNat * range.unit
  let target := range.middle * Nat.pow 10 (-exponent).toNat
  let floor := target / step
  let rest := target % step
  let down := range.contains floor exponent && decide (0 < floor)
  let up := range.contains (floor + 1) exponent
  if down && up then
    if 2 * rest < step then some floor
    else if step < 2 * rest then some (floor + 1)
    else if floor % 2 = 0 then some floor else some (floor + 1)
  else if down then some floor
  else if up then some (floor + 1)
  else none

/-- The least `k` such that the middle is below `10 ^ k`. -/
def Interval.magnitude (range : Interval) : Int :=
  if range.unit ≤ range.middle then ((Nat.toDigits 10 (range.middle / range.unit)).length : Int)
  else
    let ratio := (Nat.toDigits 10 ((range.unit - 1) / range.middle)).length
    1 - (ratio : Int)

/-- Tries one digit, then two, and so on. -/
def Interval.search (range : Interval) (magnitude : Int) : Nat → Nat → Digits
  | 0, count => ⟨range.middle / range.unit, magnitude - count⟩
  | more + 1, count =>
    match range.onGrid (magnitude - count) with
    | some digits => ⟨digits, magnitude - count⟩
    | none => range.search magnitude more (count + 1)

def dropZeros : Nat → Digits → Digits
  | 0, value => value
  | fuel + 1, value =>
    if value.digits % 10 = 0 ∧ 0 < value.digits then
      dropZeros fuel ⟨value.digits / 10, value.exponent + 1⟩
    else value

/-- The fewest digits that read back, of several the nearest. -/
def shortest (x : Double) : Digits :=
  dropZeros 20 (x.interval.search x.interval.magnitude 18 1)

/-- Positional from 1e-5 up to 1e16, and with an exponent outside; `plus` says whether a positive
exponent is signed. -/
def text (plus : Bool) (x : Double) : String :=
  let sign := if x.negative then "-" else ""
  if x.mantissa = 0 then sign ++ "0.0"
  else
    let value := x.shortest
    let digits := Nat.toDigits 10 value.digits
    let length : Int := digits.length
    let point := length + value.exponent
    let zeros := fun (n : Int) => List.replicate n.toNat '0'
    let body : List Char :=
      if 0 ≤ value.exponent ∧ point ≤ 16 then digits ++ zeros value.exponent ++ ['.', '0']
      else if 0 < point ∧ point ≤ 16 then
        digits.take point.toNat ++ '.' :: digits.drop point.toNat
      else if -5 < point ∧ point ≤ 0 then '0' :: '.' :: zeros (-point) ++ digits
      else
        let sign := if plus && decide (0 < point) then ['+'] else []
        let exponent := 'e' :: sign ++ (toString (point - 1)).toList
        match digits with
        | [one] => one :: exponent
        | first :: others => first :: '.' :: others ++ exponent
        | [] => []
    sign ++ String.ofList body

def limit : Nat := Nat.pow 2 64

/-- Appends digits as long as the number fits 64 bits; also says how many were taken. -/
def absorb : Nat → Nat → List Nat → Nat × Nat
  | value, taken, [] => (value, taken)
  | value, taken, digit :: rest =>
    if value * 10 + digit < limit then absorb (value * 10 + digit) (taken + 1) rest
    else (value, taken)

def tenTo (n : Nat) : Float := Float.ofScientific 1 false n

def scaleDown (x : Float) (n : Nat) : Float :=
  if n ≤ 308 then x / tenTo n
  else if x == 0.0 then x
  else scaleDown (x / tenTo 308) (n - 308)
termination_by n

/-- Reads digits before and after the point and an exponent; nothing when the number is too
large. -/
def read (negative : Bool) (whole fraction : List Nat) (exponent : Int) : Option Double :=
  let (leading, taken) := absorb 0 0 whole
  let (value, used) := absorb leading 0 fraction
  let power : Int := (whole.length - taken : Nat) - (used : Int) + exponent
  let start := value.toUInt64.toFloat
  let signed := fun (x : Float) => some (ofFloat (if negative then -x else x))
  if 0 ≤ power then
    if power ≤ 308 then
      let result := start * tenTo power.toNat
      if result.isInf then none else signed result
    else if value = 0 then signed start
    else none
  else signed (scaleDown start (-power).toNat)

end Double

end ClusterDesk
