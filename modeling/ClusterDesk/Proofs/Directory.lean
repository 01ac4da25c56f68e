import ClusterDesk.Proofs.Editing
import ClusterDesk.Proofs.OrderedMap

/-!
Config maps as users see them: an ordered map from namespace and name to what is kept under them,
and what each session on one of them does to it. Nothing of manifests or stores is known here. Main
statement: a session that saves or deletes concerns its own key only (`changes_serveAll`).
-/

namespace ClusterDesk

open ConfigMap (Edit Editable)

structure Key where
  scope : String
  name : String
  deriving DecidableEq, Repr, Inhabited

def Key.id (key : Key) : ResourceId := .namespaced key.scope key.name

/-- What is kept of one config map. -/
structure Entry where
  uid : String
  version : Option String
  labels : Dict String := Dict.empty
  annotations : Dict String := Dict.empty
  ownerReferences : List OwnerReference := []
  finalizers : List String := []
  immutable : Option Bool := none
  content : Editable := {}
  deriving DecidableEq, Inhabited

namespace Entry

def fresh (count : Nat) : Entry := { uid := "uid-" ++ toString count, version := some "1" }

def edit (entry : Entry) (edits : List Edit) : Entry :=
  { entry with content := entry.content.edit edits }

end Entry

abbrev Directory : Type := OrderedMap Key Entry

/-- Sessions on config maps, each of them from its reading to its last call. -/
inductive Request where
  | read (key : Key)
  | list (scope : Option String)
  | save (key : Key) (edits : List Edit)
  | delete (key : Key)

inductive Reply where
  | found (key : Key) (entry : Entry)
  /-- Nothing is kept under a key that was read. -/
  | blank (key : Key)
  | listed (entries : List (Key × Entry))
  | removed
  /-- Nothing is kept under a key that was to be removed. -/
  | missing

namespace Directory

variable (directory : Directory)

def within (scope : Option String) : List (Key × Entry) :=
  directory.entries.filter fun entry => scope.isNone || some entry.1.scope = scope

/-- The entry that is edited: the one that is kept, or a new one. -/
def base (key : Key) : Entry := (directory.find? key).getD (.fresh directory.size)

def serve : Request → Reply × Directory
  | .read key => ((directory.find? key).elim (.blank key) (.found key), directory)
  | .list scope => (.listed (directory.within scope), directory)
  | .save key edits =>
    let saved := (directory.base key).edit edits
    (.found key saved, directory.put key saved)
  | .delete key =>
    ((directory.find? key).elim .missing fun _ => .removed, directory.erase key)

/-- How a request may change a directory, told by the keys in their order and by what is found
under each of them. -/
def Changes (before after : Directory) : Request → Prop
  | .read _ | .list _ => after = before
  | .save key edits =>
    after.keys = (if key ∈ before.keys then before.keys else before.keys ++ [key]) ∧
      ∀ other, after.find? other =
        if key = other then some ((before.base key).edit edits) else before.find? other
  | .delete key =>
    after.keys = before.keys.filter (fun other => !decide (other = key)) ∧
      ∀ other, after.find? other = if key = other then none else before.find? other

theorem changes_serve (request : Request) :
    directory.Changes (directory.serve request).2 request := by
  cases request with
  | read key => rfl
  | list scope => rfl
  | save key edits =>
    exact ⟨directory.keys_put key _, fun other => directory.find?_put key other _⟩
  | delete key =>
    exact ⟨directory.keys_erase key, fun other => directory.find?_erase key other⟩

def serveAll : List Request → Directory → List Reply × Directory
  | [], directory => ([], directory)
  | request :: rest, directory =>
    let (reply, middle) := directory.serve request
    let (replies, later) := serveAll rest middle
    (reply :: replies, later)

/-- Each further request changes what the ones before it have left. -/
theorem changes_serveAll (requests : List Request) (request : Request) :
    (directory.serveAll requests).2.Changes (directory.serveAll (requests ++ [request])).2
      request := by
  induction requests generalizing directory with
  | nil => exact directory.changes_serve request
  | cons first rest ih => exact ih (directory.serve first).2

end Directory

end ClusterDesk
