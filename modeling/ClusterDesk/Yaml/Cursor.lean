/-!
A place in a YAML text: what follows it, and where it is. A line ends at a line feed; a lone
carriage return breaks the text but not the count of columns.
-/

namespace ClusterDesk.Yaml

structure Cursor where
  rest : List Char
  index : Nat := 0
  line : Nat := 0
  column : Nat := 0
  deriving DecidableEq, Repr, Inhabited

def isBlank (c : Char) : Bool := c = ' ' || c = '\t'

def isBreak (c : Char) : Bool := c = '\n' || c = '\r'

def isSpace (c : Char) : Bool := isBlank c || isBreak c

def isWordChar (c : Char) : Bool := c.isAlphanum || c = '_' || c = '-'

/-- The characters that delimit flow collections. -/
def isFlowChar (c : Char) : Bool := c = ',' || c = '[' || c = ']' || c = '\x7b' || c = '\x7d'

namespace Cursor

/-- The start of a text, which ends at a zero character; a carriage return with a line feed is
one line end. -/
def start (text : String) : Cursor :=
  let rec joined : List Char → List Char
    | '\r' :: '\n' :: rest => '\n' :: joined rest
    | c :: rest => c :: joined rest
    | [] => []
  { rest := joined (text.toList.takeWhile (· ≠ '\x00')) }

def peek? (cursor : Cursor) : Option Char := cursor.rest.head?

def skip (cursor : Cursor) : Cursor :=
  match cursor.rest with
  | [] => cursor
  | c :: rest =>
    if c = '\n' then ⟨rest, cursor.index + 1, cursor.line + 1, 0⟩
    else ⟨rest, cursor.index + 1, cursor.line, cursor.column + 1⟩

def advance (cursor : Cursor) : Nat → Cursor
  | 0 => cursor
  | n + 1 => cursor.skip.advance n

/-- The characters at the front that pass, and the place after them. -/
def span (cursor : Cursor) (pass : Char → Bool) : List Char × Cursor :=
  let found := cursor.rest.takeWhile pass
  (found, cursor.advance found.length)

def skipWhile (cursor : Cursor) (pass : Char → Bool) : Cursor := (cursor.span pass).2

def skipBlanks (cursor : Cursor) : Cursor := cursor.skipWhile isBlank

def isAt (cursor : Cursor) (c : Char) : Bool := cursor.peek? = some c

/-- Whether a space or the end comes after `count` characters. -/
def endsAfter (cursor : Cursor) (count : Nat) : Bool := (cursor.rest[count]?).all isSpace

/-- Whether a line starts here with three times `c` and nothing more. -/
def isMarker (cursor : Cursor) (c : Char) : Bool :=
  cursor.column = 0 && cursor.rest.take 3 = [c, c, c] && cursor.endsAfter 3

def isDocumentMarker (cursor : Cursor) : Bool := cursor.isMarker '-' || cursor.isMarker '.'

/-- Past blanks and a comment to the end of the line; nothing else may be there. -/
def endOfLine? (cursor : Cursor) : Option Cursor :=
  let after := cursor.skipBlanks
  let after := if after.isAt '#' then after.skipWhile (!isBreak ·) else after
  match after.peek? with
  | none => some after
  | some c => if isBreak c then some after.skip else none

end Cursor

end ClusterDesk.Yaml
