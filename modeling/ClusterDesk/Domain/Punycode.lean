/-!
Labels of any characters written in letters, digits and hyphens. The basic characters come first,
then the others in increasing order, each by its distance from the one before.
-/

namespace ClusterDesk.Domain

/-- The threshold for the digit at distance `k` under the given bias. -/
def threshold (bias k : Nat) : Nat :=
  if k ≤ bias then 1 else if bias + 26 ≤ k then 26 else k - bias

theorem threshold_bounds (bias k : Nat) : 1 ≤ threshold bias k ∧ threshold bias k ≤ 26 := by
  unfold threshold
  split
  · omega
  · split <;> omega

def digitChar (n : Nat) : Char := if n < 26 then Char.ofNat (97 + n) else Char.ofNat (22 + n)

def digitValue? (c : Char) : Option Nat :=
  if c.isDigit then some (c.toNat - 22)
  else if c.isLower then some (c.toNat - 97)
  else if c.isUpper then some (c.toNat - 65)
  else none

def settleBias (delta k : Nat) : Nat :=
  if delta ≤ 455 then k + 36 * delta / (delta + 38) else settleBias (delta / 35) (k + 36)
termination_by delta
decreasing_by omega

/-- The bias after a distance has been written among `count` characters. -/
def adapt (delta count : Nat) (first : Bool) : Nat :=
  let scaled := if first then delta / 700 else delta / 2
  settleBias (scaled + scaled / count) 0

/-- A distance as digits of variable weight, least first. -/
def digitsOf (bias k n : Nat) : List Char :=
  let t := threshold bias k
  if n < t then [digitChar n]
  else digitChar (t + (n - t) % (36 - t)) :: digitsOf bias (k + 36) ((n - t) / (36 - t))
termination_by n
decreasing_by
  have bounds := threshold_bounds bias k
  have := Nat.div_le_self (n - threshold bias k) (36 - threshold bias k)
  omega

structure Encoder where
  delta : Nat := 0
  bias : Nat := 72
  handled : Nat
  first : Bool := true
  written : List Char := []

def Encoder.visit (point : Nat) (state : Encoder) (c : Char) : Encoder :=
  if c.toNat < point then { state with delta := state.delta + 1 }
  else if c.toNat = point then
    { delta := 0
      bias := adapt state.delta (state.handled + 1) state.first
      handled := state.handled + 1
      first := false
      written := state.written ++ digitsOf state.bias 36 state.delta }
  else state

/-- Writes every occurrence of `point`, the one before being `previous`. -/
def Encoder.write (label : List Char) (state : Encoder × Nat) (point : Nat) : Encoder × Nat :=
  let (encoder, next) := state
  let start := { encoder with delta := encoder.delta + (point - next) * (encoder.handled + 1) }
  let done := label.foldl (Encoder.visit point) start
  ({ done with delta := done.delta + 1 }, point + 1)

def isBasic (c : Char) : Bool := decide (c.toNat < 128)

def encode (label : List Char) : List Char :=
  let basic := label.filter isBasic
  let points := (((label.filter (!isBasic ·)).map Char.toNat).mergeSort (· ≤ ·)).eraseDups
  let (encoder, _) := points.foldl (Encoder.write label) (⟨0, 72, basic.length, true, []⟩, 128)
  (if basic.isEmpty then [] else basic ++ ['-']) ++ encoder.written

/-- Reads one distance from the front: `sum` so far, the next digit of weight `weight`. -/
def distance? (bias : Nat) : Nat → Nat → Nat → List Char → Option (Nat × List Char)
  | _, _, _, [] => none
  | k, weight, sum, c :: rest =>
    match digitValue? c with
    | none => none
    | some digit =>
      let total := sum + digit * weight
      let t := threshold bias k
      if Nat.pow 2 32 ≤ total then none
      else if digit < t then some (total, rest)
      else distance? bias (k + 36) (weight * (36 - t)) total rest

theorem distance?_shorter {bias k weight sum n : Nat} {text rest : List Char}
    (read : distance? bias k weight sum text = some (n, rest)) : rest.length < text.length := by
  induction text generalizing k weight sum with
  | nil => simp [distance?] at read
  | cons c tail ih =>
    simp only [distance?] at read
    split at read
    · cases read
    · split at read
      · cases read
      · split at read
        · cases read
          simp
        · exact Nat.lt_succ_of_lt (ih read)

/-- Inserts the characters that the distances stand for. -/
def insertAll (bias index point : Nat) (first : Bool) (output : List Char) (text : List Char) :
    Option (List Char) :=
  match text with
  | [] => some output
  | c :: tail =>
    match _shorter : distance? bias 36 1 index (c :: tail) with
    | none => none
    | some (sum, rest) =>
      let count := output.length + 1
      let code := point + sum / count
      let position := sum % count
      if code.isValidChar then
        insertAll (adapt (sum - index) count first) (position + 1) code false
          (output.take position ++ Char.ofNat code :: output.drop position) rest
      else none
termination_by text.length
decreasing_by exact distance?_shorter _shorter

/-- The basic characters stand before the last hyphen. -/
def decode? (text : List Char) : Option (List Char) :=
  if !text.all isBasic then none
  else
    let reversed := text.reverse
    match reversed.dropWhile (· ≠ '-') with
    | [] => insertAll 72 0 128 true [] text
    | _ :: before =>
      insertAll 72 0 128 true before.reverse (reversed.takeWhile (· ≠ '-')).reverse

end ClusterDesk.Domain
