import ClusterDesk.Json
import ClusterDesk.Text.Hex
import ClusterDesk.Text.Utf8

/-!
JSON trees from text. Text that breaks the grammar has no tree. Numbers out of range, unpaired
surrogates, broken text and the parts nested more than 127 deep are grammatical but unreadable.
-/

namespace ClusterDesk.Json

open Utf8 (Piece)

/-- The elements of a string between its quotes: characters, and 16-bit units written by their
code. -/
inductive Element where
  | char (c : Char)
  | unit (code : Nat)
  | broken
  deriving DecidableEq, Repr

def escaped? (c : Char) : Option Char :=
  if c = '"' then some '"'
  else if c = '\\' then some '\\'
  else if c = '/' then some '/'
  else if c = 'b' then some '\x08'
  else if c = 'f' then some '\x0c'
  else if c = 'n' then some '\n'
  else if c = 'r' then some '\r'
  else if c = 't' then some '\t'
  else none

/-- Reads up to the closing quote. -/
def elements? : List Piece → Option (List Element × List Piece)
  | [] => none
  | .broken :: rest => (elements? rest).map fun (tail, after) => (.broken :: tail, after)
  | .char '\\' :: .char 'u' :: .char a :: .char b :: .char c :: .char d :: rest =>
    match Hex.digitValue? a, Hex.digitValue? b, Hex.digitValue? c, Hex.digitValue? d with
    | some a, some b, some c, some d =>
      (elements? rest).map fun (tail, after) =>
        (.unit (((a * 16 + b) * 16 + c) * 16 + d) :: tail, after)
    | _, _, _, _ => none
  | .char '\\' :: .char c :: rest =>
    match escaped? c with
    | some plain => (elements? rest).map fun (tail, after) => (.char plain :: tail, after)
    | none => none
  | .char c :: rest =>
    if c = '"' then some ([], rest)
    else if c = '\\' ∨ c.toNat < 32 then none
    else (elements? rest).map fun (tail, after) => (.char c :: tail, after)

/-- Joins surrogate pairs; an unpaired one is no text. -/
def characters? : List Element → Option (List Char)
  | [] => some []
  | .broken :: _ => none
  | .char c :: rest => (characters? rest).map (c :: ·)
  | .unit high :: .unit low :: rest =>
    if 0xd800 ≤ high ∧ high < 0xdc00 then
      if 0xdc00 ≤ low ∧ low < 0xe000 then
        (characters? rest).map
          (Char.ofNat (0x10000 + (high - 0xd800) * 0x400 + (low - 0xdc00)) :: ·)
      else none
    else if 0xdc00 ≤ high ∧ high < 0xe000 then none
    else (characters? (.unit low :: rest)).map (Char.ofNat high :: ·)
  | .unit code :: rest =>
    if 0xd800 ≤ code ∧ code < 0xe000 then none
    else (characters? rest).map (Char.ofNat code :: ·)

def textOf? (elements : List Element) : Option String := (characters? elements).map String.ofList

def isBlank : Piece → Bool
  | .char c => c = ' ' || c = '\n' || c = '\t' || c = '\r'
  | .broken => false

def skipBlanks (text : List Piece) : List Piece := text.dropWhile isBlank

def digit? : Piece → Option Nat
  | .char c => if c.isDigit then some (c.toNat - 48) else none
  | .broken => none

/-- The digits at the front, and the rest. -/
def digits : List Piece → List Nat × List Piece
  | [] => ([], [])
  | piece :: rest =>
    match digit? piece with
    | some n =>
      let (tail, after) := digits rest
      (n :: tail, after)
    | none => ([], piece :: rest)

def decimal (digits : List Nat) : Nat := digits.foldl (fun n d => n * 10 + d) 0

/-- The digits after a point; a point without digits is no number. -/
def fraction? : List Piece → Option (Option (List Nat) × List Piece)
  | .char '.' :: rest =>
    match digits rest with
    | ([], _) => none
    | (found, after) => some (some found, after)
  | rest => some (none, rest)

def power? : List Piece → Option (Option Int × List Piece)
  | .char c :: rest =>
    if c = 'e' ∨ c = 'E' then
      let (minus, digitsAt) := match rest with
        | .char '+' :: after => (false, after)
        | .char '-' :: after => (true, after)
        | _ => (false, rest)
      match digits digitsAt with
      | ([], _) => none
      | (found, after) =>
        some (some (if minus then -(decimal found : Int) else (decimal found : Int)), after)
    else some (none, .char c :: rest)
  | rest => some (none, rest)

def numberOf (minus : Bool) (whole : List Nat) (fraction : Option (List Nat))
    (power : Option Int) : Json :=
  let size := decimal whole
  let floating :=
    match Double.read minus whole (fraction.getD []) (power.getD 0) with
    | some value => float value
    | none => unreadable
  if fraction.isSome ∨ power.isSome then floating
  else if minus then
    if 0 < size ∧ size ≤ Nat.pow 2 63 then int (-(size : Int)) else floating
  else if size < Nat.pow 2 64 then int size
  else floating

def number? (minus : Bool) (text : List Piece) : Option (Json × List Piece) := do
  let (whole, afterWhole) := digits text
  match whole with
  | [] => none
  | 0 :: _ :: _ => none
  | _ =>
    let (fraction, afterFraction) ← fraction? afterWhole
    let (power, after) ← power? afterFraction
    some (numberOf minus whole fraction power, after)

def literal (word : String) (text : List Piece) : Option (List Piece) :=
  let pieces := word.toList.map Piece.char
  if pieces.isPrefixOf text then some (text.drop pieces.length) else none

/-- Nesting from which containers are unreadable. -/
def deepest : Nat := 128

def container (depth : Nat) (json : Json) : Json := if deepest ≤ depth then unreadable else json

/-- An object one of whose names is no text cannot be read. -/
def object (members : List (Option String × Json)) : Json :=
  match members.mapM fun (name, json) => name.map (·, json) with
  | some named => obj named
  | none => unreadable

mutual

/-- A value, blanks before it skipped; `depth` counts the container it would open. -/
def value (fuel depth : Nat) (text : List Piece) : Option (Json × List Piece) :=
  match fuel with
  | 0 => none
  | fuel + 1 =>
    match skipBlanks text with
    | .char '"' :: rest =>
      (elements? rest).map fun (elements, after) =>
        (match textOf? elements with
          | some text => str text
          | none => unreadable, after)
    | .char '[' :: rest =>
      match skipBlanks rest with
      | .char ']' :: after => some (container depth (arr []), after)
      | start =>
        (items fuel (depth + 1) start).map fun (found, after) =>
          (container depth (arr found), after)
    | .char '\x7b' :: rest =>
      match skipBlanks rest with
      | .char '\x7d' :: after => some (container depth (obj []), after)
      | start =>
        (members fuel (depth + 1) start).map fun (found, after) =>
          (container depth (object found), after)
    | .char 't' :: rest => (literal "rue" rest).map fun after => (bool true, after)
    | .char 'f' :: rest => (literal "alse" rest).map fun after => (bool false, after)
    | .char 'n' :: rest => (literal "ull" rest).map fun after => (null, after)
    | .char '-' :: rest => number? true rest
    | start => number? false start

/-- The values of an array and its closing bracket. -/
def items (fuel depth : Nat) (text : List Piece) : Option (List Json × List Piece) :=
  match fuel with
  | 0 => none
  | fuel + 1 =>
    match value fuel depth text with
    | none => none
    | some (first, rest) =>
      match skipBlanks rest with
      | .char ',' :: more => (items fuel depth more).map fun (tail, after) => (first :: tail, after)
      | .char ']' :: after => some ([first], after)
      | _ => none

/-- The members of an object and its closing brace. -/
def members (fuel depth : Nat) (text : List Piece) :
    Option (List (Option String × Json) × List Piece) :=
  match fuel with
  | 0 => none
  | fuel + 1 =>
    match skipBlanks text with
    | .char '"' :: rest =>
      match elements? rest with
      | none => none
      | some (name, afterName) =>
        match skipBlanks afterName with
        | .char ':' :: start =>
          match value fuel depth start with
          | none => none
          | some (first, rest) =>
            match skipBlanks rest with
            | .char ',' :: more =>
              (members fuel depth more).map fun (tail, after) =>
                ((textOf? name, first) :: tail, after)
            | .char '\x7d' :: after => some ([(textOf? name, first)], after)
            | _ => none
        | _ => none
    | _ => none

end

/-- The tree of a whole text, blanks around it allowed. -/
def ofPieces? (text : List Piece) : Option Json :=
  match value (text.length + 1) 1 text with
  | some (json, rest) => if (skipBlanks rest).isEmpty then some json else none
  | none => none

def parse? (text : String) : Option Json := ofPieces? (text.toList.map .char)

def ofBytes? (bytes : List UInt8) : Option Json := ofPieces? (Utf8.pieces bytes)

end ClusterDesk.Json
