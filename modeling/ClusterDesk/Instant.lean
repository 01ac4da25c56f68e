import ClusterDesk.Text.Blank

/-!
Points in time in universal time, read from dates with an offset and written back without one.
A leap second is kept as the second before it with more than a second's worth of nanoseconds.
-/

namespace ClusterDesk

structure Instant where
  /-- Seconds since the start of 1970. -/
  seconds : Int
  /-- Nanoseconds within the second; from 10^9 on, within the leap second after it. -/
  nanos : Nat
  deriving DecidableEq, Repr, Inhabited

namespace Instant

/-- A day of the calendar that is carried back before its introduction. -/
structure Day where
  year : Int
  month : Nat
  day : Nat
  deriving DecidableEq, Repr

def isLeapYear (year : Int) : Bool :=
  year % 4 = 0 && (year % 100 ≠ 0 || year % 400 = 0)

def daysInMonth (year : Int) (month : Nat) : Nat :=
  if month = 2 then if isLeapYear year then 29 else 28
  else if month = 4 ∨ month = 6 ∨ month = 9 ∨ month = 11 then 30 else 31

/-- Days since the start of 1970. Years are counted from March, so that the leap day comes last. -/
def Day.number (d : Day) : Int :=
  let year := if d.month ≤ 2 then d.year - 1 else d.year
  let era := year / 400
  let yearOfEra := year % 400
  let month : Int := ((d.month + 9) % 12 : Nat)
  let dayOfYear := (153 * month + 2) / 5 + (d.day : Int) - 1
  era * 146097 + (yearOfEra * 365 + yearOfEra / 4 - yearOfEra / 100 + dayOfYear) - 719468

def Day.ofNumber (number : Int) : Day :=
  let shifted := number + 719468
  let era := shifted / 146097
  let dayOfEra := shifted % 146097
  let yearOfEra :=
    (dayOfEra - dayOfEra / 1460 + dayOfEra / 36524 - dayOfEra / 146096) / 365
  let dayOfYear := dayOfEra - (365 * yearOfEra + yearOfEra / 4 - yearOfEra / 100)
  let month := (5 * dayOfYear + 2) / 153
  let day := (dayOfYear - (153 * month + 2) / 5 + 1).toNat
  let monthNumber := if month < 10 then month + 3 else month - 9
  let year := yearOfEra + era * 400
  ⟨if monthNumber ≤ 2 then year + 1 else year, monthNumber.toNat, day⟩

/-- The years a date may have. -/
def yearInRange (year : Int) : Bool := -262143 ≤ year && year ≤ 262142

def skipBlanks (text : List Char) : List Char := text.dropWhile isBlank

/-- Up to `most` digits at the front, at least one, and the rest. -/
def number? (most : Nat) (text : List Char) : Option (Nat × List Char) :=
  let digits := (text.take most).takeWhile Char.isDigit
  if digits.isEmpty then none
  else some (digits.foldl (fun n c => n * 10 + (c.toNat - 48)) 0, text.drop digits.length)

def padded? (most : Nat) (text : List Char) : Option (Nat × List Char) :=
  number? most (skipBlanks text)

/-- A year of four digits, or of any number of digits after a sign. -/
def year? (text : List Char) : Option (Int × List Char) :=
  match skipBlanks text with
  | '-' :: rest => (number? rest.length rest).map fun (n, after) => (-(n : Int), after)
  | '+' :: rest => (number? rest.length rest).map fun (n, after) => ((n : Int), after)
  | rest => (number? 4 rest).map fun (n, after) => ((n : Int), after)

/-- The rest after `c`, blanks before it skipped. -/
def after? (c : Char) (text : List Char) : Option (List Char) :=
  match skipBlanks text with
  | first :: rest => if first = c then some rest else none
  | [] => none

def fraction? : List Char → Option (Nat × List Char)
  | '.' :: rest =>
    match number? 9 rest with
    | some (n, after) =>
      let used := rest.length - after.length
      some (n * Nat.pow 10 (9 - used), after.dropWhile Char.isDigit)
    | none => none
  | rest => some (0, rest)

def twoDigits? : List Char → Option (Nat × List Char)
  | a :: b :: rest =>
    if a.isDigit && b.isDigit then some ((a.toNat - 48) * 10 + (b.toNat - 48), rest) else none
  | _ => none

/-- An offset in seconds: a letter Z, the name UTC, or signed hours and minutes. -/
def offset? (text : List Char) : Option (Int × List Char) :=
  match skipBlanks text with
  | 'Z' :: rest => some (0, rest)
  | 'z' :: rest => some (0, rest)
  | sign :: rest =>
    match (sign :: rest).take 3 with
    | [u, t, c] =>
      if u.toLower = 'u' && t.toLower = 't' && c.toLower = 'c' then some (0, rest.drop 2)
      else if sign = '+' || sign = '-' || sign = '\u2212' then do
        let (hours, afterHours) ← twoDigits? rest
        let (minutes, after) ← twoDigits? (afterHours.dropWhile fun c => c = ':' || isBlank c)
        if 60 ≤ minutes then none
        else
          let size : Int := hours * 3600 + minutes * 60
          some (if sign = '+' then size else -size, after)
      else none
    | _ => none
  | [] => none

def parse? (input : String) : Option Instant := do
  let (year, rest) ← year? input.toList
  let rest ← after? '-' rest
  let (month, rest) ← padded? 2 rest
  let rest ← after? '-' rest
  let (day, rest) ← padded? 2 rest
  let rest ← match rest with
    | c :: rest => if c = 'T' ∨ c = 't' ∨ c = ' ' then some rest else none
    | [] => none
  let (hour, rest) ← padded? 2 rest
  let rest ← after? ':' rest
  let (minute, rest) ← padded? 2 rest
  let rest ← after? ':' rest
  let (second, rest) ← padded? 2 rest
  let (nanos, rest) ← fraction? rest
  let (offset, rest) ← offset? rest
  if !(skipBlanks rest).isEmpty then none
  else if !yearInRange year ∨ month = 0 ∨ 12 < month ∨ day = 0 ∨ daysInMonth year month < day
      ∨ 23 < hour ∨ 59 < minute ∨ 60 < second ∨ 86400 ≤ offset.natAbs then none
  else
    let (shown, extra) := if second = 60 then (59, 1000000000) else (second, 0)
    let seconds := (Day.number ⟨year, month, day⟩) * 86400 + hour * 3600 + minute * 60 + shown
      - offset
    if yearInRange (Day.ofNumber (seconds / 86400)).year then some ⟨seconds, nanos + extra⟩
    else none

def twoPlaces (n : Nat) : List Char :=
  [Char.ofNat (48 + n / 10 % 10), Char.ofNat (48 + n % 10)]

def places (count n : Nat) : List Char :=
  let digits := Nat.toDigits 10 n
  List.replicate (count - digits.length) '0' ++ digits

def yearText (year : Int) : List Char :=
  if 0 ≤ year ∧ year ≤ 9999 then places 4 year.toNat
  else (if year < 0 then '-' else '+') :: places 4 year.natAbs

/-- Date and time to the second. -/
def clock (instant : Instant) : List Char :=
  let day := Day.ofNumber (instant.seconds / 86400)
  let time := (instant.seconds % 86400).toNat
  let second := time % 60 + (if 1000000000 ≤ instant.nanos then 1 else 0)
  yearText day.year ++ '-' :: twoPlaces day.month ++ '-' :: twoPlaces day.day ++ 'T' ::
    twoPlaces (time / 3600) ++ ':' :: twoPlaces (time / 60 % 60) ++ ':' :: twoPlaces second

/-- Seconds are divided into thousandths, millionths or finer as far as needed. -/
def fractionText (nanos : Nat) : List Char :=
  let n := nanos % 1000000000
  if n = 0 then []
  else if n % 1000000 = 0 then '.' :: places 3 (n / 1000000)
  else if n % 1000 = 0 then '.' :: places 6 (n / 1000)
  else '.' :: places 9 n

/-- To the second, with Z for universal time. -/
def brief (instant : Instant) : String := String.ofList (instant.clock ++ ['Z'])

/-- With as many places as needed and a numeric offset. -/
def full (instant : Instant) : String :=
  String.ofList (instant.clock ++ fractionText instant.nanos ++ "+00:00".toList)

end Instant

end ClusterDesk
