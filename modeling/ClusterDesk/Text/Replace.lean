/-!
Replacing one text by another wherever it occurs, from the front and without overlaps.
-/

namespace ClusterDesk.Replace

/-- Leaves out the next `skip` characters, which belong to an occurrence already replaced. -/
def chars (old new : List Char) (skip : Nat) : List Char → List Char
  | [] => []
  | c :: rest =>
    match skip with
    | skip + 1 => chars old new skip rest
    | 0 =>
      if old ≠ [] ∧ old.isPrefixOf (c :: rest) then new ++ chars old new (old.length - 1) rest
      else c :: chars old new 0 rest

def all (old new text : String) : String :=
  String.ofList (chars old.toList new.toList 0 text.toList)

end ClusterDesk.Replace
