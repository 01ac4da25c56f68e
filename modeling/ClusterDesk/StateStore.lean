import ClusterDesk.AppState.File
import ClusterDesk.Disk

/-!
The application state of a running program, and the file in which it is kept from run to run. A
state without a file lasts as long as the program.
-/

namespace ClusterDesk

structure StateStore where
  path : Option String := none
  state : AppState := {}
  deriving DecidableEq, Repr, Inhabited

namespace StateStore

def load (disk : Disk) (path : String) : Except Problem StateStore :=
  (AppState.ofFile path (disk.read path)).map fun state => ⟨some path, state⟩

def apply (store : StateStore) (update : AppState.Update) : StateStore :=
  { store with state := update.apply store.state }

/-- Writes the state to its file, if it has one. -/
def flush (store : StateStore) (disk : Disk) : Except Problem Disk :=
  match store.path with
  | none => .ok disk
  | some path =>
    match disk.write path (Utf8.encode store.state.fileText) with
    | .ok written => .ok written
    | .error fault => .error (.disk path fault)

end StateStore

end ClusterDesk
