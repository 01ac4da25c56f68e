import ClusterDesk.Proofs.StateFile
import ClusterDesk.Proofs.Submission

/-!
A write of settings goes through three stages, each of which may fail: the server stores what it is
sent, the application state is written down, the settings are read anew. Main statement:
`settled_by_stages`, on what is left behind by a write that gets through some of them. Nothing is
assumed of the answers, which need not agree with what was sent or with one another.
-/

namespace ClusterDesk.Editor

open Program

/-- What the program itself keeps in mind. -/
structure Memory where
  state : AppState := {}
  inProgress : Bool := false
  notifications : List Notification := []
  deriving DecidableEq

namespace Memory

def after (memory : Memory) : Question → Memory
  | .update update => { memory with state := update.apply memory.state }
  | .progress flag => { memory with inProgress := flag }
  | .notify notification =>
    { memory with notifications := memory.notifications ++ [notification] }
  | .fetch | .store _ | .flush => memory

def following (memory : Memory) (talk : Talk) : Memory :=
  talk.foldl (fun memory step => memory.after step.1) memory

theorem following_append (memory : Memory) (first second : Talk) :
    memory.following (first ++ second) = (memory.following first).following second :=
  List.foldl_append

end Memory

/-- Server and file answer as they like; all else is kept in mind. A state that cannot be written
down is told by its file. -/
structure Surroundings (σ : Type) where
  answer : (question : Question) → σ → Answer question × σ
  memory : σ → Memory
  keeps : ∀ question state, memory (answer question state).2 = (memory state).after question
  unwritten : ∀ state problem, (answer .flush state).1 = .error problem →
    ∃ path fault, problem = .disk path fault

theorem Surroundings.memory_run {σ α : Type} (surroundings : Surroundings σ) (program : Session α)
    (state : σ) :
    surroundings.memory (program.run surroundings.answer state).state =
      (surroundings.memory state).following (program.exchanges surroundings.answer state) := by
  induction program generalizing state with
  | done value => rfl
  | note record next ih => exact ih state
  | ask question next ih =>
    have later := ih (surroundings.answer question state).1 (surroundings.answer question state).2
    rw [surroundings.keeps] at later
    exact later
  | both first second next ih =>
    let middle := (surroundings.answer first state).2
    have later := ih (surroundings.answer first state).1 (surroundings.answer second middle).1
      (surroundings.answer second middle).2
    rw [surroundings.keeps, surroundings.keeps] at later
    exact later

/-- A workbench keeps the memory, and its disk tells by its path what could not be written. -/
def Workbench.surroundings : Surroundings Workbench where
  answer := Workbench.answer
  memory bench := ⟨bench.store.state, bench.inProgress, bench.notifications⟩
  keeps := by
    intro question bench
    cases question with
    | flush =>
      simp only [Workbench.answer]
      split <;> rfl
    | fetch | store | update | progress | notify => rfl
  unwritten := by
    intro bench problem failed
    simp only [Workbench.answer] at failed
    split at failed
    · cases failed
    · next reason flushed =>
      cases failed
      obtain ⟨path, fault, -, told⟩ := StateStore.flush_error flushed
      exact ⟨path, fault, told⟩

/-- How the stages went. What is said of a stage counts only if the ones before it succeeded. -/
structure Stages where
  stored : Except Cause Settings
  written : Except Problem Unit
  read : Except Cause Settings

namespace Stages

def talk (stages : Stages) (settings : Settings) : Talk :=
  ⟨.store settings, stages.stored⟩ ::
    match stages.stored with
    | .error cause => [⟨failureNotice updateMessage (unstored cause), ()⟩]
    | .ok stored =>
      takeover stored ++ ⟨.flush, stages.written⟩ ::
        match stages.written with
        | .error _ => []
        | .ok () =>
          ⟨.fetch, stages.read⟩ ::
            match stages.read with
            | .error cause => [⟨failureNotice retrieveMessage (unfetched cause), ()⟩]
            | .ok _ => []

def outcome (stages : Stages) (view : SettingsView) : Outcome :=
  match stages.stored, stages.written, stages.read with
  | .error cause, _, _ => (.error (.service (unstored cause)), view)
  | .ok _, .error problem, _ => (.error problem, view)
  | .ok _, .ok (), .error cause => (.error (.service (unfetched cause)), view)
  | .ok _, .ok (), .ok fresh => (.ok (), .ofSettings fresh)

def state (stages : Stages) (before : AppState) : AppState :=
  match stages.stored with
  | .error _ => before
  | .ok stored => .ofSettings stored

def notifications (stages : Stages) : List Notification :=
  match stages.stored, stages.written, stages.read with
  | .error cause, _, _ => [.failure "Failure" updateMessage (unstored cause)]
  | .ok _, .ok (), .error cause =>
    [.success "Settings updated", .failure "Failure" retrieveMessage (unfetched cause)]
  | .ok _, _, _ => [.success "Settings updated"]

theorem of_ends {view : SettingsView} {talk : Talk} {outcome : Outcome}
    (ends : Ends view talk outcome) :
    ∃ stages : Stages, talk = stages.talk view.settings ∧ outcome = stages.outcome view := by
  cases ends with
  | refused cause => exact ⟨⟨.error cause, .ok (), .error cause⟩, rfl, rfl⟩
  | unflushed stored problem => exact ⟨⟨.ok stored, .error problem, .ok stored⟩, rfl, rfl⟩
  | unread stored cause => exact ⟨⟨.ok stored, .ok (), .error cause⟩, rfl, rfl⟩
  | done stored fresh => exact ⟨⟨.ok stored, .ok (), .ok fresh⟩, rfl, rfl⟩

theorem following_talk (stages : Stages) (memory : Memory) (settings : Settings) :
    memory.following (stages.talk settings) =
      { memory with
        state := stages.state memory.state
        notifications := memory.notifications ++ stages.notifications } := by
  obtain ⟨stored, written, read⟩ := stages
  cases stored with
  | error cause => rfl
  | ok stored =>
    cases written with
    | error problem => rfl
    | ok _ =>
      cases read with
      | ok fresh => rfl
      | error cause =>
        have told : memory.notifications ++ [Notification.success "Settings updated"] ++
            [.failure "Failure" retrieveMessage (unfetched cause)] =
          memory.notifications ++ [.success "Settings updated",
            .failure "Failure" retrieveMessage (unfetched cause)] := List.append_assoc ..
        exact congrArg (Memory.mk _ _) told

theorem outcome_eq_ok_iff (stages : Stages) (view : SettingsView) :
    (stages.outcome view).1 = .ok () ↔
      (∃ stored, stages.stored = .ok stored) ∧ stages.written = .ok () ∧
        ∃ fresh, stages.read = .ok fresh := by
  obtain ⟨stored, written, read⟩ := stages
  cases stored <;> cases written <;> cases read <;> simp [outcome]

theorem written_mem_talk {stages : Stages} {stored : Settings} {problem : Problem}
    (settings : Settings) (taken : stages.stored = .ok stored)
    (unwritten : stages.written = .error problem) :
    ⟨.flush, .error problem⟩ ∈ stages.talk settings := by
  rw [talk, taken, ← unwritten]
  exact .tail _ (List.mem_append_right _ (.head _))

end Stages

theorem following_framed (memory : Memory) (action : Action) (talk : Talk) :
    memory.following (action.framed talk) =
      if action = .save then
        { ({ memory with inProgress := true }).following talk with inProgress := false }
      else memory.following talk := by
  cases action with
  | save => exact Memory.following_append _ talk _
  | load | addLabel | removeLabel => rfl

theorem mem_framed {talk : Talk} {step : Exchange Question Answer} (action : Action)
    (told : step ∈ talk) : step ∈ action.framed talk := by
  cases action with
  | save => exact .tail _ (List.mem_append_left _ told)
  | load | addLabel | removeLabel => exact told

/-- The application state is taken over from what the server has stored, whatever fails afterwards,
and stays as it was if the server refuses. A write succeeds exactly if no stage fails; it then shows
what was read anew, and otherwise keeps the form and tells of the first failure. -/
theorem settled_by_stages {σ : Type} (surroundings : Surroundings σ) (state : σ)
    (view : SettingsView) (action : Action) (settings : Settings)
    (edited : action.edit view.form view.settings = some settings) :
    let run := (action.session view).run surroundings.answer state
    let before := surroundings.memory state
    ∃ stages : Stages,
      (action.session view).exchanges surroundings.answer state =
          action.framed (stages.talk settings) ∧
        run.value = stages.outcome { view with settings } ∧
        surroundings.memory run.state =
          { state := stages.state before.state
            inProgress := if action = .save then false else before.inProgress
            notifications := before.notifications ++ stages.notifications } ∧
        (run.value.1 = .ok () ↔
          (∃ stored, stages.stored = .ok stored) ∧ stages.written = .ok () ∧
            ∃ fresh, stages.read = .ok fresh) ∧
        ∀ stored problem, stages.stored = .ok stored → stages.written = .error problem →
          ∃ path fault, problem = .disk path fault := by
  intro run before
  obtain ⟨talk, told, ends⟩ := action_ends surroundings.answer state edited
  obtain ⟨stages, rfl, value⟩ := Stages.of_ends ends
  have memory : surroundings.memory run.state =
      { state := stages.state before.state
        inProgress := if action = .save then false else before.inProgress
        notifications := before.notifications ++ stages.notifications } := by
    rw [surroundings.memory_run, told, following_framed]
    split
    · rw [Stages.following_talk]
    · rw [Stages.following_talk]
  refine ⟨stages, told, value, memory, ?_, ?_⟩
  · rw [← stages.outcome_eq_ok_iff { view with settings }, ← value]
  · intro stored problem taken unwritten
    have flushed := mem_framed action (stages.written_mem_talk settings taken unwritten)
    rw [← told] at flushed
    obtain ⟨asked, failed⟩ := answered_of_mem surroundings.answer _ state flushed
    exact surroundings.unwritten asked problem failed

private def awry : Workbench where
  server := { refusesFetch := some (.status 503 "status 503") }
  normalize settings := { settings with snapshotInterval := "5m" }
  store := { path := some "state.json", state := { logo := "old" } }
  inProgress := true

/-- The server stores other settings than it is sent, and cannot be read afterwards: the state and
its file are those of what it stored, and the view is not replaced. -/
theorem settled_by_stages_unread :
    let view : SettingsView := { form := { enableTelemetry := true } }
    let sent : Settings :=
      { allowBindMounts := true, allowPrivilegedMode := true, allowHostNamespace := true
        allowDeviceMapping := true, allowStackManagement := true
        allowContainerCapabilities := true, enableTelemetry := true }
    let run := (Action.save.session view).run Workbench.answer awry
    Action.save.edit view.form view.settings = some sent ∧
      (∃ stages : Stages, run.value = stages.outcome { view with settings := sent } ∧
        run.state.store.state = stages.state { logo := "old" } ∧
        run.state.notifications = stages.notifications) ∧
      run.value =
        (.error (.service (unfetched (.status 503 "status 503"))), { view with settings := sent }) ∧
      run.state.store.state = .ofSettings { sent with snapshotInterval := "5m" } ∧
      StateStore.load run.state.disk "state.json" = .ok run.state.store := by
  intro view sent run
  have edited : Action.save.edit view.form view.settings = some sent := rfl
  obtain ⟨stages, -, value, memory, -, -⟩ :=
    settled_by_stages Workbench.surroundings awry view .save sent edited
  have flushed : StateStore.flush run.state.store {} = .ok run.state.disk := rfl
  exact ⟨edited, ⟨stages, value, congrArg (·.state) memory, congrArg (·.notifications) memory⟩,
    rfl, rfl, StateStore.load_flush rfl flushed⟩

end ClusterDesk.Editor
