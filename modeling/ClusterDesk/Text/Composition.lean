import ClusterDesk.Text.Combining

/-!
The composed form of text: characters are taken apart, marks are put in order, and what has a
composite is written by it. Syllables of the Korean alphabet are composed by arithmetic.
-/

namespace ClusterDesk.Composition

open Combining

def syllables : Nat := 0xac00

def isSyllable (c : Char) : Bool := decide (syllables ≤ c.toNat ∧ c.toNat < syllables + 11172)

/-- Takes a character apart as far as possible; `depth` bounds how often. -/
def takeApart : Nat → Char → List Char
  | 0, c => [c]
  | depth + 1, c =>
    if isSyllable c then
      let index := c.toNat - syllables
      let vowel := [Char.ofNat (0x1100 + index / 588), Char.ofNat (0x1161 + index % 588 / 28)]
      if index % 28 = 0 then vowel else vowel ++ [Char.ofNat (0x11a7 + index % 28)]
    else
      match parts? c with
      | some (first, second) => takeApart depth first ++ [second]
      | none => [c]

/-- Puts a mark before the marks of higher order that end the reversed text. -/
def place (mark : Char) : List Char → List Char
  | [] => [mark]
  | last :: before =>
    if order mark < order last then last :: place mark before else mark :: last :: before

/-- Puts the marks of each character in order. -/
def sortMarks (text : List Char) : List Char :=
  (text.foldl (fun reversed c =>
    if order c = 0 then c :: reversed else place c reversed) []).reverse

def composite? (first second : Char) : Option Char :=
  let a := first.toNat
  let b := second.toNat
  if 0x1100 ≤ a ∧ a < 0x1113 ∧ 0x1161 ≤ b ∧ b < 0x1176 then
    some (Char.ofNat (syllables + ((a - 0x1100) * 21 + (b - 0x1161)) * 28))
  else if isSyllable first ∧ (a - syllables) % 28 = 0 ∧ 0x11a8 ≤ b ∧ b < 0x11c3 then
    some (Char.ofNat (a + (b - 0x11a7)))
  else (pairs.find? fun pair => pair.1 = (first, second)).map (·.2)

/-- Joins marks to `start`; `held` are the marks that could not be joined, the last one first. -/
def join (start : Option Char) (held : List Char) : List Char → List Char
  | [] => start.toList ++ held.reverse
  | c :: rest =>
    match start with
    | none => if order c = 0 then join (some c) [] rest else c :: join none [] rest
    | some base =>
      let free := match held with
        | [] => true
        | last :: _ => decide (order last < order c)
      match if free then composite? base c else none with
      | some whole => join (some whole) held rest
      | none =>
        if order c = 0 then base :: held.reverse ++ join (some c) [] rest
        else join (some base) (c :: held) rest

def compose (text : List Char) : List Char := join none [] (sortMarks (text.flatMap (takeApart 6)))

end ClusterDesk.Composition
