import ClusterDesk.Decimal
import ClusterDesk.Dict

/-!
JSON trees. Members keep the order and the repetitions of the text. A part whose text follows the
grammar but denotes no value is kept as `unreadable`: it does harm only where it is read.
-/

namespace ClusterDesk

inductive Json where
  | null
  | bool (value : Bool)
  /-- A whole number between -2^63 and 2^64. -/
  | int (value : Int)
  | float (value : Double)
  | str (value : String)
  | arr (items : List Json)
  | obj (members : List (String × Json))
  /-- A number out of range, broken text, or a tree nested too deeply. -/
  | unreadable
  deriving Inhabited, Repr

namespace Json

mutual

def decEq : (a b : Json) → Decidable (a = b)
  | null, null => isTrue rfl
  | bool a, bool b => if h : a = b then isTrue (h ▸ rfl) else isFalse fun e => h (Json.bool.inj e)
  | int a, int b => if h : a = b then isTrue (h ▸ rfl) else isFalse fun e => h (Json.int.inj e)
  | float a, float b =>
    if h : a = b then isTrue (h ▸ rfl) else isFalse fun e => h (Json.float.inj e)
  | str a, str b => if h : a = b then isTrue (h ▸ rfl) else isFalse fun e => h (Json.str.inj e)
  | arr a, arr b => match decEqItems a b with
    | isTrue h => isTrue (h ▸ rfl)
    | isFalse h => isFalse fun e => h (Json.arr.inj e)
  | obj a, obj b => match decEqMembers a b with
    | isTrue h => isTrue (h ▸ rfl)
    | isFalse h => isFalse fun e => h (Json.obj.inj e)
  | unreadable, unreadable => isTrue rfl
  | null, bool _ | null, int _ | null, float _ | null, str _ | null, arr _ | null, obj _
  | null, unreadable
  | bool _, null | bool _, int _ | bool _, float _ | bool _, str _ | bool _, arr _ | bool _, obj _
  | bool _, unreadable
  | int _, null | int _, bool _ | int _, float _ | int _, str _ | int _, arr _ | int _, obj _
  | int _, unreadable
  | float _, null | float _, bool _ | float _, int _ | float _, str _ | float _, arr _
  | float _, obj _ | float _, unreadable
  | str _, null | str _, bool _ | str _, int _ | str _, float _ | str _, arr _ | str _, obj _
  | str _, unreadable
  | arr _, null | arr _, bool _ | arr _, int _ | arr _, float _ | arr _, str _ | arr _, obj _
  | arr _, unreadable
  | obj _, null | obj _, bool _ | obj _, int _ | obj _, float _ | obj _, str _ | obj _, arr _
  | obj _, unreadable
  | unreadable, null | unreadable, bool _ | unreadable, int _ | unreadable, float _
  | unreadable, str _ | unreadable, arr _ | unreadable, obj _ => isFalse nofun

def decEqItems : (a b : List Json) → Decidable (a = b)
  | [], [] => isTrue rfl
  | [], _ :: _ | _ :: _, [] => isFalse nofun
  | x :: xs, y :: ys => match decEq x y with
    | isFalse h => isFalse fun e => h (List.cons.inj e).1
    | isTrue h => match decEqItems xs ys with
      | isTrue g => isTrue (h ▸ g ▸ rfl)
      | isFalse g => isFalse fun e => g (List.cons.inj e).2

def decEqMembers : (a b : List (String × Json)) → Decidable (a = b)
  | [], [] => isTrue rfl
  | [], _ :: _ | _ :: _, [] => isFalse nofun
  | (k, x) :: xs, (l, y) :: ys =>
    if n : k = l then
      match decEq x y with
      | isFalse h => isFalse fun e => h (Prod.mk.inj (List.cons.inj e).1).2
      | isTrue h => match decEqMembers xs ys with
        | isTrue g => isTrue (n ▸ h ▸ g ▸ rfl)
        | isFalse g => isFalse fun e => g (List.cons.inj e).2
    else isFalse fun e => n (Prod.mk.inj (List.cons.inj e).1).1

end

instance : DecidableEq Json := decEq

mutual

/-- The value of a tree: members sorted by name, of equal names the last; nothing if some part is
unreadable. -/
def value? : Json → Option Json
  | unreadable => none
  | arr items => (values? items).map arr
  | obj members => (memberValues? members).map fun values => obj (Dict.ofList values).entries
  | leaf => some leaf

def values? : List Json → Option (List Json)
  | [] => some []
  | item :: rest =>
    match value? item, values? rest with
    | some value, some others => some (value :: others)
    | _, _ => none

def memberValues? : List (String × Json) → Option (List (String × Json))
  | [] => some []
  | (name, item) :: rest =>
    match value? item, memberValues? rest with
    | some value, some others => some ((name, value) :: others)
    | _, _ => none

end

def ofText : Option String → Json
  | some text => str text
  | none => null

def ofBool : Option Bool → Json
  | some value => bool value
  | none => null

def texts (items : List String) : Json := arr (items.map str)

def dict (entries : Dict Json) : Json := obj entries.entries

def textDict (entries : Dict String) : Json := dict (entries.map str)

/-- The last member of that name. -/
def member? (name : String) : Json → Option Json
  | obj members => Dict.lookup name members.reverse
  | _ => none

end Json

end ClusterDesk
