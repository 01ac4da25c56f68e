import ClusterDesk.Text.Hex
import ClusterDesk.Text.Split

/-!
Numeric addresses of hosts: four numbers below 256, of which the last may stand for several, or
eight groups of 16 bits, of which one run of zeros may be left out.
-/

namespace ClusterDesk.Url

def digitIn? (base : Nat) (c : Char) : Option Nat := (Hex.digitValue? c).filter (· < base)

def numberIn? (base : Nat) (text : List Char) : Option Nat :=
  (text.mapM (digitIn? base)).map fun digits => digits.foldl (fun n d => n * base + d) 0

/-- A number in decimal, octal after a zero, or hexadecimal after 0x. -/
def part? : List Char → Option Nat
  | [] => none
  | '0' :: 'x' :: rest => numberIn? 16 rest
  | '0' :: 'X' :: rest => numberIn? 16 rest
  | '0' :: d :: rest => numberIn? 8 (d :: rest)
  | text => numberIn? 10 text

/-- The parts between points; a point at the end separates nothing. -/
def parts (name : List Char) : List (List Char) :=
  let all := Split.pieces '.' name
  if all.getLast? = some [] then all.dropLast else all

/-- A name whose last part is a number can only be an address. -/
def endsInNumber (name : List Char) : Bool :=
  match (parts name).getLast? with
  | some last => (!last.isEmpty && last.all Char.isDigit) || (part? last).isSome
  | none => false

/-- An address of 32 bits. -/
def ipv4? (name : List Char) : Option Nat := do
  let numbers ← (parts name).mapM part?
  let last ← numbers.getLast?
  let leading := numbers.dropLast
  let rest := Nat.pow 256 (4 - leading.length)
  if 4 < numbers.length ∨ leading.any (255 < ·) ∨ rest ≤ last then none
  else some (leading.foldl (fun n d => n * 256 + d) 0 * rest + last)

def ipv4Text (address : Nat) : String :=
  ".".intercalate ([address / Nat.pow 256 3, address / Nat.pow 256 2 % 256, address / 256 % 256,
    address % 256].map toString)

def group? (text : List Char) : Option Nat :=
  if text.isEmpty ∨ 4 < text.length then none else numberIn? 16 text

/-- A number below 256 without leading zeros. -/
def byte? (text : List Char) : Option Nat :=
  if text.isEmpty ∨ 3 < text.length ∨ (text.head? = some '0' ∧ 1 < text.length) then none
  else match numberIn? 10 text with
    | some n => if n < 256 then some n else none
    | none => none

/-- The last group, or four numbers in place of the last two. -/
def lastGroups? (text : List Char) : Option (List Nat) :=
  if text.contains '.' then
    match (Split.pieces '.' text).mapM byte? with
    | some [a, b, c, d] => some [a * 256 + b, c * 256 + d]
    | _ => none
  else (group? text).map ([·])

/-- Groups between colons; `mixed` says whether the last may be written as four numbers. -/
def groups? (mixed : Bool) (text : List Char) : Option (List Nat) :=
  if text.isEmpty then some []
  else
    let pieces := Split.pieces ':' text
    let read := if mixed then lastGroups? else fun text => (group? text).map ([·])
    match pieces.dropLast.mapM group?, pieces.getLast?.bind read with
    | some leading, some last => some (leading ++ last)
    | _, _ => none

/-- What comes before and after the first double colon. -/
def atGap : List Char → Option (List Char × List Char)
  | ':' :: ':' :: rest => some ([], rest)
  | c :: rest => (atGap rest).map fun (before, after) => (c :: before, after)
  | [] => none

/-- Eight groups; a double colon stands for at least one group of zeros. -/
def ipv6? (text : List Char) : Option (List Nat) :=
  match atGap text with
  | none =>
    match groups? true text with
    | some groups => if groups.length = 8 then some groups else none
    | none => none
  | some (before, after) =>
    match groups? false before, groups? true after with
    | some left, some right =>
      if left.length + right.length < 8 then
        some (left ++ List.replicate (8 - left.length - right.length) 0 ++ right)
      else none
    | _, _ => none

def zerosAt (groups : List Nat) (index : Nat) : Nat :=
  ((groups.drop index).takeWhile (· = 0)).length

/-- Where the longest run of zeros starts; of several the first. -/
def longestZeros (groups : List Nat) : Nat × Nat :=
  (List.range groups.length).foldl (fun best index =>
    if best.2 < zerosAt groups index then (index, zerosAt groups index) else best) (0, 0)

def groupText (group : Nat) : String := String.ofList (Nat.toDigits 16 group)

/-- The longest run of at least two zeros is left out. -/
def ipv6Text (groups : List Nat) : String :=
  let (start, count) := longestZeros groups
  let join := fun (some : List Nat) => ":".intercalate (some.map groupText)
  if count < 2 then join groups
  else join (groups.take start) ++ "::" ++ join (groups.drop (start + count))

end ClusterDesk.Url
