import ClusterDesk.Yaml.Token

/-!
YAML documents as trees. An alias stands for the node that was given its name last.
-/

namespace ClusterDesk.Yaml

inductive Node where
  | scalar (plain : Bool) (tag : Option Tag) (text : String)
  | sequence (items : List Node)
  | mapping (entries : List (Node × Node))
  /-- An alias inside the node that it stands for. -/
  | again
  deriving Inhabited, Repr

namespace Node

/-- What stands where nothing is written. -/
def null : Node := .scalar true none "~"

/-- The tokens not yet read, the place of the node for each name, and the nodes that are
complete. -/
structure Reading where
  tokens : List Token
  names : List (String × Nat) := []
  count : Nat := 0
  nodes : List (Nat × Node) := []

abbrev Read (α : Type) : Type := StateT Reading Option α

def peek : Read (Option Token) := return (← get).tokens.head?

def skip : Read Unit := modify fun reading => { reading with tokens := reading.tokens.drop 1 }

/-- Whether one of these comes next. -/
def isNext (tokens : List Token) : Read Bool := do
  match ← peek with
  | some token => return tokens.contains token
  | none => return false

def named (name : String) : Read Node := do
  let reading ← get
  match reading.names.find? (·.1 = name) with
  | none => failure
  | some (_, place) => return ((reading.nodes.find? (·.1 = place)).map (·.2)).getD .again

/-- Gives the next node a name. -/
def anchored (name : String) : Read Nat := do
  let reading ← get
  set { reading with names := (name, reading.count) :: reading.names, count := reading.count + 1 }
  return reading.count

/-- An anchor and a tag in either order. -/
def properties : Read (Option Nat × Option Tag) := do
  match ← peek with
  | some (.anchor name) => do
    skip
    let place ← anchored name
    match ← peek with
    | some (.tag tag) => do
      skip
      return (some place, some tag)
    | _ => return (some place, none)
  | some (.tag tag) => do
    skip
    match ← peek with
    | some (.anchor name) => do
      skip
      return (some (← anchored name), some tag)
    | _ => return (none, some tag)
  | _ => return (none, none)

def complete (place : Option Nat) (node : Node) : Read Node := do
  match place with
  | some place => modify fun reading => { reading with nodes := (place, node) :: reading.nodes }
  | none => pure ()
  return node

mutual

/-- A node. In `block` context collections may be written without brackets; `dashes` says whether
items may follow without indentation. -/
def node (fuel : Nat) (block dashes : Bool) : Read Node :=
  match fuel with
  | 0 => failure
  | fuel + 1 => do
    match ← peek with
    | some (.alias name) => do
      skip
      named name
    | _ => do
      let (place, tag) ← properties
      match ← peek with
      | some (.scalar plain text) => do
        skip
        complete place (.scalar plain tag text)
      | some .openSequence => do
        skip
        complete place (.sequence (← flowItems fuel true))
      | some .openMapping => do
        skip
        complete place (.mapping (← flowEntries fuel true))
      | other =>
        if other = some .item && dashes then do
          complete place (.sequence (← dashedItems fuel))
        else if other = some .blockSequence && block then do
          skip
          complete place (.sequence (← blockItems fuel))
        else if other = some .blockMapping && block then do
          skip
          complete place (.mapping (← blockEntries fuel))
        else if place.isSome || tag.isSome then complete place (.scalar true tag "")
        else failure

/-- The node that comes next, or nothing if one of `ends` does. -/
def nodeUnless (fuel : Nat) (ends : List Token) (block dashes : Bool) : Read Node :=
  match fuel with
  | 0 => failure
  | fuel + 1 => do
    if ← isNext ends then return null
    node fuel block dashes

def blockItems (fuel : Nat) : Read (List Node) :=
  match fuel with
  | 0 => failure
  | fuel + 1 => do
    match ← peek with
    | some .blockEnd => do
      skip
      return []
    | some .item => do
      skip
      let first ← nodeUnless fuel [.item, .blockEnd] true false
      return first :: (← blockItems fuel)
    | _ => failure

def dashedItems (fuel : Nat) : Read (List Node) :=
  match fuel with
  | 0 => failure
  | fuel + 1 => do
    match ← peek with
    | some .item => do
      skip
      let first ← nodeUnless fuel [.item, .key, .value, .blockEnd] true false
      return first :: (← dashedItems fuel)
    | _ => return []

def blockEntries (fuel : Nat) : Read (List (Node × Node)) :=
  match fuel with
  | 0 => failure
  | fuel + 1 => do
    match ← peek with
    | some .blockEnd => do
      skip
      return []
    | some .key => do
      skip
      let key ← nodeUnless fuel [.key, .value, .blockEnd] true true
      let value ← valueUnless fuel [.key, .value, .blockEnd] true
      return (key, value) :: (← blockEntries fuel)
    | some .value => do
      let value ← valueUnless fuel [.key, .value, .blockEnd] true
      return (null, value) :: (← blockEntries fuel)
    | _ => failure

/-- The value of an entry, nothing without a colon. -/
def valueUnless (fuel : Nat) (ends : List Token) (block : Bool) : Read Node :=
  match fuel with
  | 0 => failure
  | fuel + 1 => do
    match ← peek with
    | some .value => do
      skip
      nodeUnless fuel ends block block
    | _ => return null

/-- Entries in brackets; a comma stands before each but the first. -/
def flowEntries (fuel : Nat) (first : Bool) : Read (List (Node × Node)) :=
  match fuel with
  | 0 => failure
  | fuel + 1 => do
    if ← isNext [.closeMapping] then
      skip
      return []
    if !first then
      if ← isNext [.comma] then skip else failure
    match ← peek with
    | some .key => do
      skip
      let key ← nodeUnless fuel [.value, .comma, .closeMapping] false false
      let value ← valueUnless fuel [.comma, .closeMapping] false
      return (key, value) :: (← flowEntries fuel false)
    | some .value => do
      let value ← valueUnless fuel [.comma, .closeMapping] false
      return (null, value) :: (← flowEntries fuel false)
    | some .closeMapping => do
      skip
      return []
    | _ => do
      let key ← node fuel false false
      return (key, null) :: (← flowEntries fuel false)

/-- Items in brackets; a key makes the item a mapping of one entry. -/
def flowItems (fuel : Nat) (first : Bool) : Read (List Node) :=
  match fuel with
  | 0 => failure
  | fuel + 1 => do
    if ← isNext [.closeSequence] then
      skip
      return []
    if !first then
      if ← isNext [.comma] then skip else failure
    match ← peek with
    | some .closeSequence => do
      skip
      return []
    | some .key => do
      skip
      let key ←
        if ← isNext [.value, .comma, .closeSequence] then do
          skip
          pure null
        else node fuel false false
      let value ← valueUnless fuel [.comma, .closeSequence] false
      return .mapping [(key, value)] :: (← flowItems fuel false)
    | _ => do
      let item ← node fuel false false
      return item :: (← flowItems fuel false)

end

/-- A document, its directives and marks included. -/
def document (fuel : Nat) : Read Node := do
  match ← peek with
  | none => failure
  | some .directive | some .documentStart => do
    let directives := (← get).tokens.takeWhile (· = .directive)
    modify fun reading => { reading with tokens := reading.tokens.drop directives.length }
    if ← isNext [.documentStart] then
      skip
      let ended := (← get).tokens.isEmpty
      if ended then return null
      nodeUnless fuel [.directive, .documentStart, .documentEnd] true false
    else failure
  | some _ => node fuel true false

/-- The only document of a text. -/
def ofText? (text : String) : Option Node := do
  let tokens ← tokens? text
  let (found, reading) ← (document (3 * tokens.length + 8)).run { tokens }
  if reading.tokens.all (· = .documentEnd) then some found else none

end Node

end ClusterDesk.Yaml
