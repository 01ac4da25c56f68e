import ClusterDesk.Text.Invisible

/-!
Text in double quotes with every character shown: quotes, backslashes and line controls by a
backslash, whatever does not show by its code point in braces.
-/

namespace ClusterDesk.Quoted

def hexDigits (n : Nat) : List Char := Nat.toDigits 16 n

def escape (c : Char) : List Char :=
  if c = '\x00' then ['\\', '0']
  else if c = '\t' then ['\\', 't']
  else if c = '\r' then ['\\', 'r']
  else if c = '\n' then ['\\', 'n']
  else if c = '"' then ['\\', '"']
  else if c = '\\' then ['\\', '\\']
  else if Invisible.invisible c then '\\' :: 'u' :: '\x7b' :: hexDigits c.toNat ++ ['\x7d']
  else [c]

def quote (text : String) : String :=
  String.ofList ('"' :: text.toList.flatMap escape ++ ['"'])

/-- Quoted items in brackets, separated by commas. -/
def quoteList (items : List String) : String :=
  "[" ++ ", ".intercalate (items.map quote) ++ "]"

end ClusterDesk.Quoted
