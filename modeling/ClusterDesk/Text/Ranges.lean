import ClusterDesk.Text.Split

/-!
Sets of characters given as lists of code point ranges in increasing order.
-/

namespace ClusterDesk.Ranges

def digitValue (c : Char) : Nat :=
  if c.isDigit then c.toNat - 48 else if 97 ≤ c.toNat ∧ c.toNat ≤ 122 then c.toNat - 87 else 0

/-- A lower-case number in the given base. -/
def number (base : Nat) (text : List Char) : Nat :=
  text.foldl (fun n c => n * base + digitValue c) 0

/-- The parts of a text between its blanks and line ends. -/
def words (text : String) : List (List Char) :=
  Split.pieces ' ' (text.toList.map fun c => if c = '\n' then ' ' else c)

/-- Reads hexadecimal ranges separated by blanks, such as a0-a4 or a lone b0. -/
def ofText (text : String) : Array (Nat × Nat) :=
  ((words text).filterMap fun item =>
    match Split.pieces '-' item with
    | [[]] => none
    | [one] => some (number 16 one, number 16 one)
    | [low, high] => some (number 16 low, number 16 high)
    | _ => none).toArray

/-- Reads ranges that have a text each after a colon, such as a0-a4:r. -/
def tagged (text : String) : Array (Nat × Nat × List Char) :=
  ((words text).filterMap fun item =>
    match (Split.pieces ':' item).map (Split.pieces '-') with
    | [[one], [tag]] => some (number 16 one, number 16 one, tag)
    | [[low, high], [tag]] => some (number 16 low, number 16 high, tag)
    | _ => none).toArray

/-- The position of the last entry that starts at or before `code`, searched for between two
positions. -/
def locate {α : Type} (start : α → Nat) (entries : Array α) (code : Nat) : Nat → Nat → Nat → Nat
  | 0, low, _ => low
  | fuel + 1, low, high =>
    if high ≤ low + 1 then low
    else
      let middle := (low + high) / 2
      match entries[middle]? with
      | some entry =>
        if start entry ≤ code then locate start entries code fuel middle high
        else locate start entries code fuel low middle
      | none => low

def contains (ranges : Array (Nat × Nat)) (c : Char) : Bool :=
  match ranges[locate (·.1) ranges c.toNat ranges.size 0 ranges.size]? with
  | some (low, high) => decide (low ≤ c.toNat ∧ c.toNat ≤ high)
  | none => false

/-- The entry whose range holds the character. -/
def row? (table : Array (Nat × Nat × List Char)) (c : Char) : Option (Nat × Nat × List Char) :=
  match table[locate (·.1) table c.toNat table.size 0 table.size]? with
  | some (low, high, tag) => if low ≤ c.toNat ∧ c.toNat ≤ high then some (low, high, tag) else none
  | none => none

def value? (table : Array (Nat × Nat × List Char)) (c : Char) : Option (List Char) :=
  (row? table c).map (·.2.2)

end ClusterDesk.Ranges
