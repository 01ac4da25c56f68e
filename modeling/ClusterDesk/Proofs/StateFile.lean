import ClusterDesk.StateStore
import ClusterDesk.Proofs.JsonText

/-!
State files are read as they were written: a file by the path that it was written to, and the state
from its text. Main statement: `load_flush`.
-/

namespace ClusterDesk

namespace AppState

theorem read_write (state : AppState) : read state.write = some state := by
  simp [read, write, readMembers, Json.once?, Json.named, Json.text?, Json.bool?]

/-- A state is read back from the file that it is written to. -/
theorem ofFile_fileText (path : String) (state : AppState) :
    ofFile path (.ok (Utf8.encode state.fileText)) = .ok state := by
  obtain ⟨list, shape, filled, leaves⟩ :
      ∃ list, state.write = .obj list ∧ list ≠ [] ∧ ∀ member ∈ list, Json.Leaf member.2 :=
    ⟨_, rfl, List.cons_ne_nil _ _, by simp [Json.Leaf.str, Json.Leaf.bool]⟩
  have tree : Json.ofBytes? (Utf8.encode state.fileText) = some state.write := by
    rw [Json.ofBytes?, Utf8.pieces_encode, fileText, shape]
    exact Json.pretty_read leaves filled
  rw [ofFile, tree, Option.bind_some, read_write]

end AppState

namespace Disk

variable {disk written : Disk} {path : String} {content : List UInt8}

theorem write_eq_ok_iff : disk.write path content = .ok written ↔
    ∃ place name, disk.locate true path = .ok (place, some name) ∧
      disk.isFolder (place ++ [name]) = false ∧ disk.put (place ++ [name]) content = written := by
  unfold write
  cases located : disk.locate true path with
  | error fault => simp [bind, Except.bind]
  | ok found =>
    obtain ⟨place, _ | name⟩ := found
    · simp [bind, Except.bind, throw, throwThe, MonadExceptOf.throw]
    · cases folder : disk.isFolder (place ++ [name]) <;>
        simp [bind, Except.bind, throw, throwThe, MonadExceptOf.throw, folder, pure, Except.pure]

theorem read_eq {place : List String} {name : String}
    (located : disk.locate false path = .ok (place, some name))
    (file : disk.isFolder (place ++ [name]) = false)
    (kept : disk.content? (place ++ [name]) = some content) : disk.read path = .ok content := by
  simp [read, located, file, kept, bind, Except.bind, pure, Except.pure]

def lastName (path : String) : String := (Split.texts '/' path).getLast?.getD ""

/-- The names that lead to the folder in which a path is looked up. -/
def folderNames (making : Bool) (path : String) : List String :=
  let names := Split.texts '/' path
  if making && lastName path = "" then (names.filter (· ≠ "")).dropLast else names.dropLast

def entry (path : String) (place : List String) : Except Fault (List String × Option String) :=
  if lastName path = "" ∨ lastName path = "." ∨ lastName path = ".." then .ok (place, none)
  else if 255 < (lastName path).utf8ByteSize then .error .nameTooLong
  else .ok (place, some (lastName path))

theorem locate_eq (disk : Disk) (making : Bool) (path : String) :
    disk.locate making path =
      if path.toList.contains '\x00' then .error .badPath
      else if path = "" then .error .notFound
      else if 4096 ≤ path.utf8ByteSize then .error .nameTooLong
      else ((folderNames making path).foldlM disk.step []).bind (entry path) := by
  unfold locate
  by_cases zero : path.toList.contains '\x00'
  · rw [if_pos zero, if_pos zero]
    rfl
  by_cases empty : path = ""
  · rw [if_neg zero, if_neg zero, if_pos empty, if_pos empty]
    rfl
  by_cases long : 4096 ≤ path.utf8ByteSize
  · rw [if_neg zero, if_neg zero, if_neg empty, if_neg empty, if_pos long, if_pos long]
    rfl
  rw [if_neg zero, if_neg zero, if_neg empty, if_neg empty, if_neg long, if_neg long]
  refine congrArg ((folderNames making path).foldlM disk.step []).bind (funext fun place => ?_)
  unfold entry lastName
  split
  · rfl
  · split <;> rfl

theorem lastName_ne_empty {place found : List String} {name : String}
    (file : entry path place = .ok (found, some name)) : lastName path ≠ "" := by
  intro empty
  rw [entry, if_pos (.inl empty)] at file
  cases file

/-- A path is located alike wherever its folders are reached alike. -/
theorem locate_congr {other : Disk} {making remaking : Bool} {found : List String × Option String}
    (located : disk.locate making path = .ok found)
    (reached : ∀ place, (folderNames making path).foldlM disk.step [] = .ok place →
      entry path place = .ok found →
      (folderNames remaking path).foldlM other.step [] = .ok place) :
    other.locate remaking path = .ok found := by
  rw [locate_eq] at located ⊢
  by_cases zero : path.toList.contains '\x00'
  · rw [if_pos zero] at located
    cases located
  by_cases empty : path = ""
  · rw [if_neg zero, if_pos empty] at located
    cases located
  by_cases long : 4096 ≤ path.utf8ByteSize
  · rw [if_neg zero, if_neg empty, if_pos long] at located
    cases located
  rw [if_neg zero, if_neg empty, if_neg long] at located ⊢
  cases folder : (folderNames making path).foldlM disk.step [] with
  | error fault =>
    rw [folder] at located
    cases located
  | ok place =>
    rw [folder] at located
    rw [reached place folder located]
    exact located

/-- A place in which a file can be made is the one from which it is read. -/
theorem locate_reading {place : List String} {name : String}
    (located : disk.locate true path = .ok (place, some name)) :
    disk.locate false path = .ok (place, some name) := by
  refine locate_congr located fun folder reached file => ?_
  have same : folderNames false path = folderNames true path := by
    simp [folderNames, lastName_ne_empty file]
  rw [same, reached]

theorem step_put {place next : List String} {name : String} (file : List String)
    (reached : disk.step place name = .ok next) :
    (disk.put file content).step place name = .ok next := by
  have folders : (disk.put file content).isFolder (place ++ [name]) =
      disk.isFolder (place ++ [name]) := rfl
  unfold step at reached ⊢
  rw [folders]
  split at reached
  · next stay => rw [if_pos stay, reached]
  split at reached
  · next stay up => rw [if_neg stay, if_pos up, reached]
  split at reached
  · cases reached
  split at reached
  · next stay up short inside => rw [if_neg stay, if_neg up, if_neg short, if_pos inside, reached]
  split at reached <;> cases reached

theorem foldlM_step_put {names place found : List String} (file : List String)
    (reached : names.foldlM disk.step place = .ok found) :
    names.foldlM (disk.put file content).step place = .ok found := by
  induction names generalizing place with
  | nil => exact reached
  | cons name names ih =>
    rw [List.foldlM_cons] at reached ⊢
    cases first : disk.step place name with
    | error fault =>
      rw [first] at reached
      cases reached
    | ok next =>
      rw [first] at reached
      rw [step_put file first]
      exact ih reached

theorem locate_put {making : Bool} {found : List String × Option String} (file : List String)
    (located : disk.locate making path = .ok found) :
    (disk.put file content).locate making path = .ok found :=
  locate_congr located fun _ reached _ => foldlM_step_put file reached

/-- What was written is read. -/
theorem read_write (done : disk.write path content = .ok written) :
    written.read path = .ok content := by
  obtain ⟨place, name, located, file, rfl⟩ := write_eq_ok_iff.mp done
  exact read_eq (locate_put _ (locate_reading located)) file (content?_put _ _ _)

/-- Whatever is written to the path arrives in a file. -/
def Writable (disk : Disk) (path : String) : Prop :=
  ∀ content, ∃ written, disk.write path content = .ok written

theorem Writable.after_write (done : disk.write path content = .ok written) :
    written.Writable path := by
  obtain ⟨place, name, located, file, rfl⟩ := write_eq_ok_iff.mp done
  exact fun other => ⟨_, write_eq_ok_iff.mpr ⟨place, name, locate_put _ located, file, rfl⟩⟩

end Disk

namespace StateStore

variable {store : StateStore} {disk written : Disk} {path : String} {problem : Problem}

theorem flush_eq_ok_iff (backed : store.path = some path) :
    store.flush disk = .ok written ↔
      disk.write path (Utf8.encode store.state.fileText) = .ok written := by
  unfold flush
  rw [backed]
  cases outcome : disk.write path (Utf8.encode store.state.fileText) <;> simp [outcome]

theorem flush_unbacked (unbacked : store.path = none) : store.flush disk = .ok disk := by
  rw [flush, unbacked]

theorem flush_error (failed : store.flush disk = .error problem) :
    ∃ path fault, store.path = some path ∧ problem = .disk path fault := by
  unfold flush at failed
  cases backed : store.path with
  | none =>
    rw [backed] at failed
    cases failed
  | some path =>
    simp only [backed] at failed
    split at failed
    · cases failed
    · next fault _ =>
      cases failed
      exact ⟨path, fault, rfl, rfl⟩

/-- A state without a file is always written down, and one with a file that can be written. -/
theorem exists_flush (writable : ∀ path, store.path = some path → disk.Writable path) :
    ∃ written, store.flush disk = .ok written := by
  cases backed : store.path with
  | none => exact ⟨disk, flush_unbacked backed⟩
  | some path =>
    obtain ⟨written, done⟩ := writable path backed (Utf8.encode store.state.fileText)
    exact ⟨written, (flush_eq_ok_iff backed).mpr done⟩

/-- A state that was written down is the one that a later start finds. -/
theorem load_flush (backed : store.path = some path) (done : store.flush disk = .ok written) :
    load written path = .ok store := by
  have read := Disk.read_write ((flush_eq_ok_iff backed).mp done)
  rw [load, read, AppState.ofFile_fileText, ← backed]
  rfl

end StateStore

end ClusterDesk
