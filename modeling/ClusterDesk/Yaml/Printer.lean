import ClusterDesk.Json
import ClusterDesk.Text.Hex

/-!
Block YAML. Mappings and sequences are written over several lines, two blanks deeper at each
level; a text is quoted when it could be taken for something else.
-/

namespace ClusterDesk.Yaml

def escape (c : Char) : List Char :=
  let n := c.toNat
  if c = '"' then ['\\', '"']
  else if c = '\\' then ['\\', '\\']
  else if c = '\x08' then ['\\', 'b']
  else if c = '\t' then ['\\', 't']
  else if c = '\n' then ['\\', 'n']
  else if c = '\x0c' then ['\\', 'f']
  else if c = '\r' then ['\\', 'r']
  else if n < 32 ∨ n = 127 then '\\' :: 'u' :: '0' :: '0' :: Hex.encodeByte n.toUInt8
  else [c]

def quoted (text : List Char) : List Char := '"' :: text.flatMap escape ++ ['"']

def digitsOnly (text : List Char) : Bool := !text.isEmpty && text.all Char.isDigit

def unsigned : List Char → List Char
  | '+' :: rest => rest
  | '-' :: rest => rest
  | rest => rest

/-- A whole number of any size. -/
def looksWhole (text : List Char) : Bool := digitsOnly (unsigned text)

def exponentOrEnd : List Char → Bool
  | [] => true
  | c :: rest => (c = 'e' || c = 'E') && looksWhole rest

/-- A decimal number with digits before or after the point, or a name of a number out of the
ordinary. -/
def looksDecimal (text : List Char) : Bool :=
  let body := unsigned text
  let lower := body.map Char.toLower
  let whole := body.takeWhile Char.isDigit
  let rest := body.dropWhile Char.isDigit
  lower = "inf".toList || lower = "infinity".toList || lower = "nan".toList ||
    match rest with
    | '.' :: tail =>
      let fraction := tail.takeWhile Char.isDigit
      (!whole.isEmpty || !fraction.isEmpty) && exponentOrEnd (tail.dropWhile Char.isDigit)
    | tail => !whole.isEmpty && exponentOrEnd tail

def opensSpecial (c : Char) : Bool := "&*?|-<>=!%@.".toList.contains c

def marksSpecial (c : Char) : Bool :=
  let n := c.toNat
  ":\x7b\x7d[],#\x60\"'\\".toList.contains c || n ≤ 6 || c = '\t' || c = '\n' || c = '\r' ||
    (14 ≤ n && n ≤ 26) || (28 ≤ n && n ≤ 31)

/-- Words with a meaning of their own. -/
def reserved : List String :=
  ["yes", "Yes", "YES", "no", "No", "NO", "True", "TRUE", "true", "False", "FALSE", "false",
    "on", "On", "ON", "off", "Off", "OFF", "null", "Null", "NULL", "~"]

/-- Whether a text must be quoted to stay a text. -/
def needsQuotes (text : List Char) : Bool :=
  match text with
  | [] => true
  | first :: _ =>
    first = ' ' || text.getLast? = some ' ' || opensSpecial first || text.any marksSpecial ||
      reserved.any (fun word => word.toList = text) || "0x".toList.isPrefixOf text ||
      looksWhole text || looksDecimal text

def textChars (text : String) : List Char :=
  if needsQuotes text.toList then quoted text.toList else text.toList

def scalar : Json → List Char
  | .bool true => "true".toList
  | .bool false => "false".toList
  | .int value => (toString value).toList
  | .float value => (value.text false).toList
  | .str text => textChars text
  | _ => ['~']

def newline (level : Nat) : List Char := '\n' :: List.replicate (2 * level) ' '

mutual

/-- A node whose first line is already indented to `level`. -/
def node (level : Nat) : Json → List Char
  | .arr [] => ['[', ']']
  | .arr items => sequence level items
  | .obj [] => ['\x7b', '\x7d']
  | .obj members => mapping level members
  | leaf => scalar leaf

/-- Each item after a dash; the first entry of a nested collection shares its line. -/
def sequence (level : Nat) : List Json → List Char
  | [] => []
  | [item] => '-' :: ' ' :: node (level + 1) item
  | item :: rest => '-' :: ' ' :: node (level + 1) item ++ newline level ++ sequence level rest

/-- Each value after its key; a nested collection starts on the next line. -/
def mapping (level : Nat) : List (String × Json) → List Char
  | [] => []
  | [(key, item)] => textChars key ++ ':' :: entry level item
  | (key, item) :: rest =>
    textChars key ++ ':' :: entry level item ++ newline level ++ mapping level rest

def entry (level : Nat) : Json → List Char
  | .arr (item :: rest) => newline (level + 1) ++ sequence (level + 1) (item :: rest)
  | .obj (member :: rest) => newline (level + 1) ++ mapping (level + 1) (member :: rest)
  | .arr [] => [' ', '[', ']']
  | .obj [] => [' ', '\x7b', '\x7d']
  | leaf => ' ' :: scalar leaf

end

/-- A document with its header line. -/
def print (json : Json) : String := String.ofList ("---\n".toList ++ node 0 json ++ ['\n'])

end ClusterDesk.Yaml
