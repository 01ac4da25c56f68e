import ClusterDesk.Text.Hex
import ClusterDesk.Yaml.Cursor

/-!
Scalars of YAML: plain words, text in quotes, and blocks of lines. A single line break between
words is a blank, further ones stay.
-/

namespace ClusterDesk.Yaml

/-- Words read so far, and what lies between the last of them and the next. -/
structure Folding where
  text : List Char := []
  /-- The blanks, unless a line has ended. -/
  blanks : List Char := []
  /-- Whether a line has ended. -/
  broken : Bool := false
  /-- Whether the end of the line counts as a blank. -/
  folded : Bool := false
  /-- How many lines have ended after the first. -/
  breaks : Nat := 0

namespace Folding

def between (folding : Folding) : List Char :=
  if folding.broken then
    if folding.folded && folding.breaks = 0 then [' '] else List.replicate folding.breaks '\n'
  else folding.blanks

def add (folding : Folding) (word : List Char) : Folding :=
  { text := folding.text ++ folding.between ++ word }

/-- Goes over blanks and line breaks; a line that is not indented to `indent` has no tabs. -/
def gap? (indent : Int) (folding : Folding) (cursor : Cursor) : Nat → Option (Folding × Cursor)
  | 0 => none
  | fuel + 1 =>
    match cursor.peek? with
    | none => some (folding, cursor)
    | some c =>
      if isBlank c then
        if folding.broken && c = '\t' && decide ((cursor.column : Int) < indent) then none
        else
          let next := if folding.broken then folding
            else { folding with blanks := folding.blanks ++ [c] }
          next.gap? indent cursor.skip fuel
      else if isBreak c then
        let next := if folding.broken then { folding with breaks := folding.breaks + 1 }
          else { folding with broken := true, folded := true, blanks := [] }
        next.gap? indent cursor.skip fuel
      else some (folding, cursor)

end Folding

/-- Whether a plain word ends before these characters. -/
def endsWord (flow : Bool) : List Char → Bool
  | [] => true
  | c :: rest =>
    isSpace c || (flow && isFlowChar c) ||
      (c = ':' && (rest.head?.all isSpace || (flow && rest.head?.all isFlowChar)))

def plainWord (flow : Bool) (text : List Char) : List Char :=
  match text with
  | [] => []
  | c :: rest => if endsWord flow (c :: rest) then [] else c :: plainWord flow rest

/-- A plain scalar; also says whether a line has ended after its last word. -/
def plain? (flow : Bool) (indent : Int) (folding : Folding) (cursor : Cursor) :
    Nat → Option (List Char × Bool × Cursor)
  | 0 => none
  | fuel + 1 =>
    if cursor.isDocumentMarker || cursor.isAt '#' then some (folding.text, folding.broken, cursor)
    else
      let word := plainWord flow cursor.rest
      let next := if word.isEmpty then folding else folding.add word
      let after := cursor.advance word.length
      if after.peek?.any isSpace then
        match next.gap? indent after (after.rest.length + 1) with
        | none => none
        | some (spaced, stop) =>
          if !flow && decide ((stop.column : Int) < indent) then
            some (spaced.text, spaced.broken, stop)
          else plain? flow indent spaced stop fuel
      else some (next.text, next.broken, after)

/-- The character written by exactly `count` hexadecimal digits. -/
def coded? (count : Nat) (text : List Char) : Option Char := do
  let digits ← (text.take count).mapM Hex.digitValue?
  let code := digits.foldl (fun n d => n * 16 + d) 0
  if digits.length = count ∧ code.isValidChar then some (Char.ofNat code) else none

/-- What stands after a backslash: the character meant, and the length of its code. -/
def escape? : List Char → Option (Char × Nat)
  | [] => none
  | c :: rest =>
    match c with
    | '0' => some ('\x00', 1)
    | 'a' => some ('\x07', 1)
    | 'b' => some ('\x08', 1)
    | 't' => some ('\t', 1)
    | '\t' => some ('\t', 1)
    | 'n' => some ('\n', 1)
    | 'v' => some ('\x0b', 1)
    | 'f' => some ('\x0c', 1)
    | 'r' => some ('\r', 1)
    | 'e' => some ('\x1b', 1)
    | ' ' => some (' ', 1)
    | '"' => some ('"', 1)
    | '\'' => some ('\'', 1)
    | '\\' => some ('\\', 1)
    | 'N' => some ('\u0085', 1)
    | '_' => some ('\u00a0', 1)
    | 'L' => some ('\u2028', 1)
    | 'P' => some ('\u2029', 1)
    | 'x' => (coded? 2 rest).map (·, 3)
    | 'u' => (coded? 4 rest).map (·, 5)
    | 'U' => (coded? 8 rest).map (·, 9)
    | _ => none

/-- Characters in quotes up to a space or the closing quote; a line end after a backslash stops
them too and is passed over. -/
def quotedWord? (single : Bool) (word : List Char) (cursor : Cursor) :
    Nat → Option (List Char × Bool × Cursor)
  | 0 => none
  | fuel + 1 =>
    match cursor.rest with
    | [] => some (word, false, cursor)
    | c :: rest =>
      if isSpace c then some (word, false, cursor)
      else if single then
        if c = '\'' then
          if rest.head? = some '\'' then quotedWord? single (word ++ ['\'']) (cursor.advance 2) fuel
          else some (word, false, cursor)
        else quotedWord? single (word ++ [c]) cursor.skip fuel
      else if c = '"' then some (word, false, cursor)
      else if c = '\\' then
        if rest.head?.any isBreak then some (word, true, cursor.advance 2)
        else
          match escape? rest with
          | none => none
          | some (meant, length) =>
            quotedWord? single (word ++ [meant]) (cursor.advance (length + 1)) fuel
      else quotedWord? single (word ++ [c]) cursor.skip fuel

/-- Text in quotes, from after the opening quote to after the closing one. -/
def quoted? (single : Bool) (folding : Folding) (cursor : Cursor) :
    Nat → Option (List Char × Cursor)
  | 0 => none
  | fuel + 1 =>
    if cursor.isDocumentMarker || cursor.peek?.isNone then none
    else
      match quotedWord? single [] cursor (cursor.rest.length + 1) with
      | none => none
      | some (word, continued, after) =>
        let joined : Folding := { text := folding.text ++ folding.between ++ word }
        if after.isAt (if single then '\'' else '"') then some (joined.text, after.skip)
        else
          let open_ := if continued then { joined with broken := true } else joined
          match open_.gap? 0 after (after.rest.length + 1) with
          | none => none
          | some (spaced, stop) => quoted? single spaced stop fuel

/-- What is kept of the line breaks that end a block. -/
inductive Chomping where
  | strip | clip | keep
  deriving DecidableEq, Repr

def indentDigit? (c : Char) : Option Nat :=
  if '1' ≤ c ∧ c ≤ '9' then some (c.toNat - 48) else none

/-- Chomping and indentation in either order; an indentation of zero is an error. -/
def blockHeader? (cursor : Cursor) : Option (Chomping × Nat × Cursor) :=
  let chomping := fun (cursor : Cursor) =>
    if cursor.isAt '+' then (Chomping.keep, cursor.skip)
    else if cursor.isAt '-' then (Chomping.strip, cursor.skip)
    else (Chomping.clip, cursor)
  let digit := fun (cursor : Cursor) =>
    match cursor.peek? with
    | some c =>
      if c.isDigit then (indentDigit? c).map (·, cursor.skip) else some (0, cursor)
    | none => some (0, cursor)
  let (kept, after) := chomping cursor
  if kept = .clip then
    match digit after with
    | none => none
    | some (indent, stop) =>
      if indent = 0 then some (.clip, 0, stop)
      else
        let (kept, last) := chomping stop
        some (kept, indent, last)
  else (digit after).map fun (indent, stop) => (kept, indent, stop)

/-- Goes over indentation and empty lines: how many lines have ended, and the deepest column. No
tab may stand in the indentation; an indentation of zero is not known yet. -/
def emptyLines? (indent : Nat) (count deepest : Nat) (cursor : Cursor) :
    Nat → Option (Nat × Nat × Cursor)
  | 0 => none
  | fuel + 1 =>
    let within := indent = 0 || decide (cursor.column < indent)
    match cursor.peek? with
    | some ' ' =>
      if within then emptyLines? indent count deepest cursor.skip fuel
      else some (count, max deepest cursor.column, cursor)
    | some '\t' => if within then none else some (count, max deepest cursor.column, cursor)
    | some c =>
      if isBreak c then
        emptyLines? indent (count + 1) (max deepest cursor.column) cursor.skip fuel
      else some (count, max deepest cursor.column, cursor)
    | none => some (count, max deepest cursor.column, cursor)

/-- The lines of a block so far. -/
structure Block where
  text : List Char := []
  /-- Whether the last line has ended. -/
  ended : Bool := false
  /-- How many empty lines follow. -/
  empty : Nat := 0
  /-- Whether the last line starts with a blank. -/
  blank : Bool := false

def Block.add (literal : Bool) (block : Block) (line : List Char) : Block :=
  let blank := line.head?.any isBlank
  let joint :=
    if !literal && block.ended && !block.blank && !blank then
      if block.empty = 0 then [' '] else []
    else if block.ended then ['\n'] else []
  { text := block.text ++ joint ++ List.replicate block.empty '\n' ++ line, blank }

def blockLines? (literal : Bool) (indent : Nat) (block : Block) (cursor : Cursor) :
    Nat → Option (Block × Cursor)
  | 0 => none
  | fuel + 1 =>
    if cursor.column = indent && cursor.peek?.isSome then
      let (line, after) := cursor.span (!isBreak ·)
      let next := block.add literal line
      if after.peek?.isNone then some (next, after)
      else
        match emptyLines? indent 0 0 after.skip (after.rest.length + 1) with
        | none => none
        | some (empty, _, stop) =>
          blockLines? literal indent { next with ended := true, empty } stop fuel
    else some (block, cursor)

/-- A block from after its indicator; `parent` is the indentation of the collection it is in. -/
def block? (literal : Bool) (parent : Int) (cursor : Cursor) : Option (List Char × Cursor) := do
  let (chomping, increment, after) ← blockHeader? cursor
  let start ← after.endOfLine?
  let given := if increment = 0 then 0 else (max parent 0).toNat + increment
  let (empty, deepest, first) ← emptyLines? given 0 0 start (start.rest.length + 1)
  let indent := if given = 0 then max (max deepest (parent + 1).toNat) 1 else given
  let (block, stop) ← blockLines? literal indent { empty } first (first.rest.length + 1)
  let final := if block.ended && chomping ≠ .strip then ['\n'] else []
  let tail := if chomping = .keep then List.replicate block.empty '\n' else []
  return (block.text ++ final ++ tail, stop)

end ClusterDesk.Yaml
