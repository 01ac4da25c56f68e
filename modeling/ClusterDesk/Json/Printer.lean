import ClusterDesk.Json
import ClusterDesk.Text.Hex

/-!
JSON text, compact or with two blanks of indentation. Members are written in the order of the
tree.
-/

namespace ClusterDesk.Json

/-- Quotes, backslashes and controls are escaped, everything else stands for itself. -/
def escape (c : Char) : List Char :=
  if c = '"' then ['\\', '"']
  else if c = '\\' then ['\\', '\\']
  else if c = '\n' then ['\\', 'n']
  else if c = '\r' then ['\\', 'r']
  else if c = '\t' then ['\\', 't']
  else if c = '\x08' then ['\\', 'b']
  else if c = '\x0c' then ['\\', 'f']
  else if c.toNat < 32 then '\\' :: 'u' :: '0' :: '0' :: Hex.encodeByte c.toNat.toUInt8
  else [c]

def quoted (text : String) : List Char := '"' :: text.toList.flatMap escape ++ ['"']

def scalar : Json → List Char
  | bool true => "true".toList
  | bool false => "false".toList
  | int value => (toString value).toList
  | float value => (value.text true).toList
  | str text => quoted text
  | _ => "null".toList

mutual

def compactChars : Json → List Char
  | arr items => '[' :: compactItems items ++ [']']
  | obj members => '\x7b' :: compactMembers members ++ ['\x7d']
  | leaf => scalar leaf

def compactItems : List Json → List Char
  | [] => []
  | [item] => compactChars item
  | item :: rest => compactChars item ++ ',' :: compactItems rest

def compactMembers : List (String × Json) → List Char
  | [] => []
  | [(name, item)] => quoted name ++ ':' :: compactChars item
  | (name, item) :: rest => quoted name ++ ':' :: compactChars item ++ ',' :: compactMembers rest

end

def compact (json : Json) : String := String.ofList (compactChars json)

def indent (depth : Nat) : List Char := '\n' :: List.replicate (2 * depth) ' '

mutual

def prettyChars (depth : Nat) : Json → List Char
  | arr [] => ['[', ']']
  | arr items => '[' :: prettyItems (depth + 1) items ++ indent depth ++ [']']
  | obj [] => ['\x7b', '\x7d']
  | obj members => '\x7b' :: prettyMembers (depth + 1) members ++ indent depth ++ ['\x7d']
  | leaf => scalar leaf

def prettyItems (depth : Nat) : List Json → List Char
  | [] => []
  | [item] => indent depth ++ prettyChars depth item
  | item :: rest => indent depth ++ prettyChars depth item ++ ',' :: prettyItems depth rest

def prettyMembers (depth : Nat) : List (String × Json) → List Char
  | [] => []
  | [(name, item)] => indent depth ++ quoted name ++ ':' :: ' ' :: prettyChars depth item
  | (name, item) :: rest =>
    indent depth ++ quoted name ++ ':' :: ' ' :: prettyChars depth item ++
      ',' :: prettyMembers depth rest

end

def pretty (json : Json) : String := String.ofList (prettyChars 0 json)

end ClusterDesk.Json
