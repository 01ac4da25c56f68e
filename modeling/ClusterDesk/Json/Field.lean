import ClusterDesk.Json

/-!
Typed parts of JSON trees. Reading a part fails when its type is wrong. Of repeated members either
the last one counts, or the repetition is an error.
-/

namespace ClusterDesk.Json

variable {α : Type}

def members? : Json → Option (List (String × Json))
  | obj members => some members
  | _ => none

def text? : Json → Option String
  | str text => some text
  | _ => none

def bool? : Json → Option Bool
  | bool value => some value
  | _ => none

/-- A whole number within the bounds. -/
def intWithin? (low high : Int) : Json → Option Int
  | int value => if low ≤ value ∧ value ≤ high then some value else none
  | _ => none

def natBelow? (limit : Nat) : Json → Option Nat
  | int value => if 0 ≤ value ∧ value < limit then some value.toNat else none
  | _ => none

def list? (read : Json → Option α) : Json → Option (List α)
  | arr items => items.mapM read
  | _ => none

def readMember (read : Json → Option α) (member : String × Json) : Option (String × α) :=
  (read member.2).map (member.1, ·)

/-- Of equal keys the last one counts. -/
def dict? (read : Json → Option α) : Json → Option (Dict α)
  | obj members => (members.mapM (readMember read)).map Dict.ofList
  | _ => none

/-- Null stands for nothing. -/
def nullable (read : Json → Option α) : Json → Option (Option α)
  | null => some none
  | json => (read json).map some

def named (name : String) (members : List (String × Json)) : List Json :=
  (members.filter fun member => member.1 = name).map (·.2)

/-- Every member of that name is read and the last one counts; absence and null are nothing. -/
def last? (name : String) (read : Json → Option α) (members : List (String × Json)) :
    Option (Option α) :=
  ((named name members).mapM (nullable read)).map fun values => values.getLast?.join

/-- The member of that name, or the default when there is none; twice the name is an error. -/
def once? (name : String) (default : α) (read : Json → Option α)
    (members : List (String × Json)) : Option α :=
  match named name members with
  | [] => some default
  | [json] => read json
  | _ => none

/-- The member of that name, which must be there exactly once. -/
def required? (name : String) (read : Json → Option α) (members : List (String × Json)) :
    Option α :=
  match named name members with
  | [json] => read json
  | _ => none

/-- A member that is written only when there is a value. -/
def optional (name : String) (write : α → Json) : Option α → List (String × Json)
  | some value => [(name, write value)]
  | none => []

end ClusterDesk.Json
