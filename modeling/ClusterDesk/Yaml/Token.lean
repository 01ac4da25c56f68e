import ClusterDesk.Yaml.Scalar

/-!
YAML text as tokens. Collections without brackets are found by indentation; a word turns out to be
a key when a colon follows on its line, and the tokens that say so are put in before it.
-/

namespace ClusterDesk.Yaml

/-- A tag that a text gives to a node: a handle and what it is applied to. -/
structure Tag where
  handle : String
  suffix : String
  deriving DecidableEq, Repr

inductive Token where
  | directive
  | documentStart
  | documentEnd
  | blockSequence
  | blockMapping
  | blockEnd
  | openSequence
  | closeSequence
  | openMapping
  | closeMapping
  /-- The dash before an item. -/
  | item
  | comma
  | key
  | value
  | alias (name : String)
  | anchor (name : String)
  | tag (tag : Tag)
  | scalar (plain : Bool) (text : String)
  deriving DecidableEq, Repr

/-- A place at which a key without a mark of its own may start. -/
structure SimpleKey where
  possible : Bool := false
  /-- Whether there must be a key. -/
  required : Bool := false
  /-- How many tokens come before it. -/
  number : Nat := 0
  index : Nat := 0
  line : Nat := 0
  column : Nat := 0

structure Scanner where
  cursor : Cursor
  tokens : List Token := []
  keyAllowed : Bool := true
  /-- One for every level of brackets, the innermost first. -/
  keys : List SimpleKey := [{}]
  indent : Int := -1
  indents : List Int := []
  flow : Nat := 0
  /-- Where a colon may follow without a blank. -/
  adjacentAt : Nat := 0

namespace Scanner

def push (scanner : Scanner) (token : Token) : Scanner :=
  { scanner with tokens := scanner.tokens ++ [token] }

def insertAt (scanner : Scanner) (number : Nat) (token : Token) : Scanner :=
  { scanner with
    tokens := scanner.tokens.take number ++ token :: scanner.tokens.drop number }

def skip (scanner : Scanner) (count : Nat) : Scanner :=
  { scanner with cursor := scanner.cursor.advance count }

def allowKey (scanner : Scanner) (allowed : Bool) : Scanner :=
  { scanner with keyAllowed := allowed }

/-- Ends the collections that are indented deeper than `column`. -/
def unroll (scanner : Scanner) (column : Int) : Scanner :=
  if 0 < scanner.flow then scanner
  else
    let rec go (scanner : Scanner) : List Int → Scanner
      | [] => scanner
      | outer :: rest =>
        if column < scanner.indent then
          go { scanner.push .blockEnd with indent := outer, indents := rest } rest
        else scanner
    go scanner scanner.indents

/-- Starts a collection unless one is open at this indentation. -/
def roll (scanner : Scanner) (column : Nat) (number : Option Nat) (token : Token) : Scanner :=
  if 0 < scanner.flow ∨ (column : Int) ≤ scanner.indent then scanner
  else
    let opened := match number with
      | some number => scanner.insertAt number token
      | none => scanner.push token
    { opened with indent := column, indents := scanner.indent :: scanner.indents }

/-- A key must end on its line and within 1024 characters. -/
def stale? (scanner : Scanner) : Option Scanner := do
  let keys ← scanner.keys.mapM fun key =>
    if key.possible && (decide (key.line < scanner.cursor.line) ||
        decide (key.index + 1024 < scanner.cursor.index)) then
      if key.required then none else some { key with possible := false }
    else some key
  return { scanner with keys }

def dropKey? (scanner : Scanner) : Option Scanner :=
  match scanner.keys with
  | [] => some scanner
  | key :: rest =>
    if key.possible && key.required then none
    else some { scanner with keys := { key with possible := false } :: rest }

/-- Notes that a key may start here. -/
def markKey? (scanner : Scanner) : Option Scanner :=
  if !scanner.keyAllowed then some scanner
  else do
    let cleared ← scanner.dropKey?
    let key : SimpleKey :=
      { possible := true
        required := 0 < scanner.flow && scanner.indent = scanner.cursor.column
        number := scanner.tokens.length
        index := scanner.cursor.index
        line := scanner.cursor.line
        column := scanner.cursor.column }
    return { cleared with keys := key :: cleared.keys.drop 1 }

/-- Over blanks, comments and line ends to the next token. -/
def toToken (scanner : Scanner) : Nat → Scanner
  | 0 => scanner
  | fuel + 1 =>
    match scanner.cursor.peek? with
    | none => scanner
    | some c =>
      if c = ' ' || (c = '\t' && (0 < scanner.flow || !scanner.keyAllowed)) then
        (scanner.skip 1).toToken fuel
      else if isBreak c then
        let next := scanner.skip 1
        (if scanner.flow = 0 then next.allowKey true else next).toToken fuel
      else if c = '#' then
        { scanner with cursor := scanner.cursor.skipWhile (!isBreak ·) }.toToken fuel
      else scanner

def versionNumber? (cursor : Cursor) : Option Cursor :=
  let (digits, after) := cursor.span Char.isDigit
  if digits.isEmpty ∨ 9 < digits.length then none else some after

/-- The continuation bytes that a leading byte of an escaped character asks for. -/
def octets? (octet : Nat) : Option Nat :=
  if octet < 0x80 then some 0
  else if 0xc0 ≤ octet ∧ octet < 0xe0 then some 1
  else if 0xe0 ≤ octet ∧ octet < 0xf0 then some 2
  else if 0xf0 ≤ octet ∧ octet < 0xf8 then some 3
  else none

def octet? : List Char → Option (Nat × List Char)
  | '%' :: a :: b :: rest =>
    match Hex.digitValue? a, Hex.digitValue? b with
    | some high, some low => some (high * 16 + low, rest)
    | _, _ => none
  | _ => none

/-- Bytes are joined as they stand. -/
def following? (code : Nat) (text : List Char) : Nat → Option (Nat × List Char)
  | 0 => some (code, text)
  | count + 1 =>
    match octet? text with
    | some (octet, rest) =>
      if 0x80 ≤ octet ∧ octet < 0xc0 then following? (code * 256 + octet) rest count else none
    | none => none

def uriEscape? (text : List Char) : Option (Char × List Char) := do
  let (octet, rest) ← octet? text
  let (code, after) ← following? octet rest (← octets? octet)
  if code.isValidChar then some (Char.ofNat code, after) else none

def isUriChar (c : Char) : Bool := isWordChar c || ";/?:@&=+$,.!~*'()[]".toList.contains c

/-- What a tag is made of. -/
def uri? (found : List Char) (cursor : Cursor) : Nat → Option (List Char × Cursor)
  | 0 => none
  | fuel + 1 =>
    match cursor.peek? with
    | some '%' =>
      match uriEscape? cursor.rest with
      | none => none
      | some (c, after) =>
        uri? (found ++ [c]) (cursor.advance (cursor.rest.length - after.length)) fuel
    | some c =>
      if isUriChar c then uri? (found ++ [c]) cursor.skip fuel else some (found, cursor)
    | none => some (found, cursor)

def uriFrom? (head : List Char) (cursor : Cursor) : Option (List Char × Cursor) := do
  let (found, after) ← uri? [] cursor (cursor.rest.length + 1)
  if head.isEmpty ∧ found.isEmpty then none else some (head.drop 1 ++ found, after)

/-- The mark that opens a tag, with a name between two of them. -/
def handle? (declared : Bool) (cursor : Cursor) : Option (List Char × Cursor) :=
  if cursor.isAt '!' then
    let (name, after) := cursor.skip.span isWordChar
    if after.isAt '!' then some ('!' :: name ++ ['!'], after.skip)
    else if declared ∧ !name.isEmpty then none
    else some ('!' :: name, after)
  else none

def tag? (cursor : Cursor) : Option (Tag × Cursor) := do
  let (tag, after) ←
    if cursor.rest[1]? = some '<' then do
      let (suffix, after) ← uriFrom? [] (cursor.advance 2)
      if after.isAt '>' then some (Tag.mk "" (String.ofList suffix), after.skip) else none
    else do
      let (handle, rest) ← handle? false cursor
      if 2 ≤ handle.length ∧ handle.getLast? = some '!' then
        let (suffix, after) ← uriFrom? [] rest
        some (Tag.mk (String.ofList handle) (String.ofList suffix), after)
      else
        let (suffix, after) ← uriFrom? handle rest
        some (if suffix.isEmpty then Tag.mk "" "!" else Tag.mk "!" (String.ofList suffix), after)
  if after.endsAfter 0 then some (tag, after) else none

/-- A line that starts with a percent sign; those of unknown names are passed over. -/
def directive? (cursor : Cursor) : Option Cursor := do
  let (name, after) := cursor.skip.span isWordChar
  if name.isEmpty ∨ !after.endsAfter 0 then none
  else
    let stop ←
      if name = "YAML".toList then do
        let major ← versionNumber? after.skipBlanks
        if major.isAt '.' then versionNumber? major.skip else none
      else if name = "TAG".toList then do
        let (_, rest) ← handle? true after.skipBlanks
        let (_, stop) ← uriFrom? [] rest.skipBlanks
        if stop.endsAfter 0 then some stop else none
      else some (after.skipWhile (!isBreak ·))
    stop.endOfLine?

/-- The name after an anchor or alias mark. -/
def anchorName? (cursor : Cursor) : Option (String × Cursor) :=
  let (name, after) := cursor.skip.span isWordChar
  let ended := after.peek?.all fun c => isSpace c || "?:,]\x7d%@\x60".toList.contains c
  if name.isEmpty ∨ !ended then none else some (String.ofList name, after)

/-- A token that a key may start with. -/
def leading? (scanner : Scanner) (read : Cursor → Option (Token × Cursor)) : Option Scanner := do
  let marked ← scanner.markKey?
  let (token, after) ← read scanner.cursor
  return ({ marked with cursor := after }.allowKey false).push token

def openFlow? (scanner : Scanner) (token : Token) : Option Scanner := do
  let marked ← scanner.markKey?
  if marked.flow = 255 then none
  else
    return ({ marked with flow := marked.flow + 1, keys := {} :: marked.keys }.allowKey true
      |>.skip 1).push token

def closeFlow? (scanner : Scanner) (token : Token) : Option Scanner := do
  let cleared ← scanner.dropKey?
  let outer :=
    if 0 < cleared.flow then { cleared with flow := cleared.flow - 1, keys := cleared.keys.drop 1 }
    else cleared
  return ((outer.allowKey false).skip 1).push token

def comma? (scanner : Scanner) : Option Scanner := do
  return (((← scanner.dropKey?).allowKey true).skip 1).push .comma

def item? (scanner : Scanner) : Option Scanner := do
  if 0 < scanner.flow ∨ !scanner.keyAllowed then none
  else
    let rolled := scanner.roll scanner.cursor.column none .blockSequence
    return (((← rolled.dropKey?).allowKey true).skip 1).push .item

/-- A question mark that opens a key of any form. -/
def explicitKey? (scanner : Scanner) : Option Scanner := do
  if scanner.flow = 0 ∧ !scanner.keyAllowed then none
  else
    let rolled := scanner.roll scanner.cursor.column none .blockMapping
    return (((← rolled.dropKey?).allowKey (scanner.flow = 0)).skip 1).push .key

/-- A colon, which may turn what came before it into a key. -/
def value? (scanner : Scanner) : Option Scanner :=
  let finish := fun (scanner : Scanner) => some ((scanner.skip 1).push .value)
  match scanner.keys with
  | key :: rest =>
    if key.possible then
      let noted := scanner.insertAt key.number .key
      let keyed := noted.roll key.column (some key.number) .blockMapping
      finish ({ keyed with keys := { key with possible := false } :: rest }.allowKey false)
    else if scanner.flow = 0 then
      if scanner.keyAllowed then
        finish ((scanner.roll scanner.cursor.column none .blockMapping).allowKey true)
      else none
    else finish (scanner.allowKey false)
  | [] => none

def marker? (scanner : Scanner) (token : Token) : Option Scanner := do
  let closed ← (scanner.unroll (-1)).dropKey?
  return ((closed.allowKey false).skip 3).push token

def blockScalar? (scanner : Scanner) (literal : Bool) : Option Scanner := do
  let marked ← scanner.markKey?
  let (text, after) ← block? literal scanner.indent scanner.cursor.skip
  return ({ marked with cursor := after }.allowKey true).push (.scalar false (String.ofList text))

def quotedScalar? (scanner : Scanner) (single : Bool) : Option Scanner := do
  let start := scanner.cursor.skip
  let next ← scanner.leading? fun _ =>
    (quoted? single {} start (start.rest.length + 1)).map fun (text, after) =>
      (.scalar false (String.ofList text), after)
  return { next with adjacentAt := next.cursor.index }

def plainScalar? (scanner : Scanner) : Option Scanner := do
  let marked ← scanner.markKey?
  let start := scanner.cursor
  let (text, broken, after) ←
    plain? (0 < scanner.flow) (scanner.indent + 1) {} start (start.rest.length + 1)
  return ({ marked with cursor := after }.allowKey broken).push (.scalar true (String.ofList text))

/-- Scans one token; what starts here is told by one or two characters. -/
def next? (scanner : Scanner) : Option Scanner :=
  let cursor := scanner.cursor
  let spaced := cursor.endsAfter 1
  let flow := decide (0 < scanner.flow)
  match cursor.peek? with
  | none => none
  | some c =>
    if cursor.column = 0 ∧ c = '%' then do
      let closed ← (scanner.unroll (-1)).dropKey?
      let after ← directive? cursor
      return ({ closed with cursor := after }.allowKey false).push .directive
    else if cursor.isMarker '-' then scanner.marker? .documentStart
    else if cursor.isMarker '.' then scanner.marker? .documentEnd
    else if c = '[' then scanner.openFlow? .openSequence
    else if c = '\x7b' then scanner.openFlow? .openMapping
    else if c = ']' then scanner.closeFlow? .closeSequence
    else if c = '\x7d' then scanner.closeFlow? .closeMapping
    else if c = ',' then scanner.comma?
    else if c = '-' ∧ spaced then scanner.item?
    else if c = '?' ∧ spaced then scanner.explicitKey?
    else if c = ':' ∧ (spaced ∨ (flow ∧
        ((cursor.rest[1]?).any isFlowChar ∨ cursor.index = scanner.adjacentAt))) then
      scanner.value?
    else if c = '*' then
      scanner.leading? fun cursor =>
        (anchorName? cursor).map fun (name, after) => (.alias name, after)
    else if c = '&' then
      scanner.leading? fun cursor =>
        (anchorName? cursor).map fun (name, after) => (.anchor name, after)
    else if c = '!' then
      scanner.leading? fun cursor => (tag? cursor).map fun (tag, after) => (.tag tag, after)
    else if c = '|' ∧ !flow then scanner.blockScalar? true
    else if c = '>' ∧ !flow then scanner.blockScalar? false
    else if c = '\'' then scanner.quotedScalar? true
    else if c = '"' then scanner.quotedScalar? false
    else if c = '%' ∨ c = '@' ∨ c = '\x60' then none
    else scanner.plainScalar?

/-- Scans to the end; every round takes at least one character. -/
def run? (scanner : Scanner) : Nat → Option (List Token)
  | 0 => none
  | fuel + 1 => do
    let found ← (scanner.toToken (scanner.cursor.rest.length + 1)).stale?
    let settled := found.unroll found.cursor.column
    match settled.cursor.peek? with
    | none =>
      let closed ← (settled.unroll (-1)).dropKey?
      return closed.tokens
    | some _ => (← settled.next?).run? fuel

end Scanner

/-- The tokens of a text, if it can be divided into tokens. -/
def tokens? (text : String) : Option (List Token) :=
  let cursor := Cursor.start text
  Scanner.run? { cursor } (cursor.rest.length + 1)

end ClusterDesk.Yaml
