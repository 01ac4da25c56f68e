import ClusterDesk.Proofs.Registers
import ClusterDesk.Proofs.StateFile

/-!
A state with a file, from start to start of the program: updated, written down and read anew, in
any order. Whatever the file held before, a later start finds what was written down last. Main
statement: `restart_finds_flushed`.
-/

namespace ClusterDesk.StateStore

open AppState (Update)

inductive Deed where
  | apply (update : Update)
  | flush
  /-- The program is started anew, if the file can be read. -/
  | restart

structure Kept where
  store : StateStore
  disk : Disk
  /-- The state that the last flush wrote, of those that succeeded. -/
  flushed : Option AppState := none

namespace Kept

variable {kept : Kept} {path : String}

def step (kept : Kept) : Deed → Kept
  | .apply update => { kept with store := kept.store.apply update }
  | .flush =>
    match kept.store.flush kept.disk with
    | .ok disk => { kept with disk, flushed := some kept.store.state }
    | .error _ => kept
  | .restart =>
    match kept.store.path.map (load kept.disk) with
    | some (.ok store) => { kept with store }
    | some (.error _) | none => kept

def run (kept : Kept) (deeds : List Deed) : Kept := deeds.foldl step kept

/-- What was written down can be read at the path. -/
structure Backed (path : String) (kept : Kept) : Prop where
  own : kept.store.path = some path
  file : ∀ state, kept.flushed = some state → load kept.disk path = .ok ⟨some path, state⟩

theorem path_load {disk : Disk} {store : StateStore} (loaded : load disk path = .ok store) :
    store.path = some path := by
  unfold load at loaded
  cases read : AppState.ofFile path (disk.read path) with
  | ok state =>
    rw [read] at loaded
    cases loaded
    rfl
  | error problem =>
    rw [read] at loaded
    cases loaded

theorem Backed.step (backed : Backed path kept) (deed : Deed) : Backed path (kept.step deed) := by
  cases deed with
  | apply update => exact ⟨backed.own, backed.file⟩
  | flush =>
    unfold Kept.step
    cases outcome : kept.store.flush kept.disk with
    | error problem => exact backed
    | ok disk =>
      refine ⟨backed.own, fun state written => ?_⟩
      cases written
      have found := load_flush backed.own outcome
      rw [found, ← backed.own]
  | restart =>
    unfold Kept.step
    rw [backed.own, Option.map_some]
    cases loaded : load kept.disk path with
    | error problem => exact backed
    | ok store => exact ⟨path_load loaded, backed.file⟩

theorem Backed.run (backed : Backed path kept) (deeds : List Deed) :
    Backed path (kept.run deeds) := by
  induction deeds generalizing kept with
  | nil => exact backed
  | cons deed deeds ih => exact ih (backed.step deed)

end Kept

/-- Over any history, the file is read as the state that was flushed last; and when more updates
are flushed, it holds the text of the state that they lead to and nothing else, and is read as that
state. -/
theorem restart_finds_flushed (path : String) (start : AppState) (disk : Disk)
    (deeds : List Deed) :
    let kept := Kept.run { store := ⟨some path, start⟩, disk } deeds
    (∀ state, kept.flushed = some state → load kept.disk path = .ok ⟨some path, state⟩) ∧
    ∀ (updates : List Update) (written : Disk),
      (updates.foldl apply kept.store).flush kept.disk = .ok written →
        let state := kept.store.state.applyAll updates
        written.read path = .ok (Utf8.encode state.fileText) ∧
          load written path = .ok ⟨some path, state⟩ := by
  intro kept
  have fresh : Kept.Backed path { store := ⟨some path, start⟩, disk } :=
    ⟨rfl, fun _ flushed => nomatch flushed⟩
  have backed : Kept.Backed path kept := fresh.run deeds
  refine ⟨backed.file, ?_⟩
  intro updates written done state
  have updated : updates.foldl apply kept.store = ⟨some path, state⟩ := by
    rw [foldl_apply, backed.own]
  rw [updated] at done
  have content := (flush_eq_ok_iff rfl).mp done
  exact ⟨Disk.read_write content, load_flush rfl done⟩

/-- A long text with all that has to be escaped, then a short one. -/
theorem restart_finds_flushed_shorter :
    let long : AppState := { logo := "a \"b\" \\ \x00\n é 😀" }
    let kept := Kept.run { store := ⟨some "state.json", {}⟩, disk := {} }
      [.apply (.logo long.logo), .flush]
    kept.flushed = some long ∧
      load kept.disk "state.json" = .ok ⟨some "state.json", long⟩ ∧
      ∃ written, ([.logo "é"].foldl apply kept.store).flush kept.disk = .ok written ∧
        load written "state.json" = .ok ⟨some "state.json", { long with logo := "é" }⟩ := by
  intro long kept
  obtain ⟨found, superseded⟩ :=
    restart_finds_flushed "state.json" {} {} [.apply (.logo long.logo), .flush]
  have flushed : kept.flushed = some long := rfl
  have loaded := found long flushed
  have done : ∃ written, ([.logo "é"].foldl apply kept.store).flush kept.disk = .ok written :=
    ⟨_, rfl⟩
  obtain ⟨written, done⟩ := done
  exact ⟨flushed, loaded, written, done, (superseded [.logo "é"] written done).2⟩

end ClusterDesk.StateStore
