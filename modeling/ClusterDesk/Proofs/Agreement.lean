import ClusterDesk.Proofs.StateFile
import ClusterDesk.Proofs.Submission

/-!
A settings server with its record of writes, the application state with its file, and the view of
a user, over everything that a user can do with an editor. Writes may be refused from any point on,
and taken again from any other; the view may have been left dirty by a refusal, and its form filled
in at will. Main statement: `editor_agrees`.
-/

namespace ClusterDesk.Editor

open Program

inductive Event where
  | act (action : Action)
  | fill (form : SettingsForm)
  /-- From here on writes are refused with this cause, or taken. -/
  | refuse (cause : Option Cause)

structure Desk where
  bench : Workbench
  view : SettingsView

namespace Desk

def act (desk : Desk) (action : Action) : Except Problem Unit × Desk :=
  let run := (action.session desk.view).run Workbench.answer desk.bench
  (run.value.1, ⟨run.state, run.value.2⟩)

def step (desk : Desk) : Event → Desk
  | .act action => (desk.act action).2
  | .fill form => { desk with view := { desk.view with form } }
  | .refuse cause =>
    { desk with
      bench := { desk.bench with server := { desk.bench.server with refusesStore := cause } } }

def run (desk : Desk) (events : List Event) : Desk := events.foldl step desk

/-- A server that has recorded nothing so far. -/
def start (settings : Settings) (store : StateStore) (disk : Disk) (view : SettingsView) :
    Desk where
  bench := { server := { stored := settings }, store, disk }
  view := view

end Desk

/-- The server once it has taken the settings. -/
def taking (server : SettingsServer) (settings : Settings) : SettingsServer :=
  { server with stored := settings, writes := server.writes ++ [settings] }

/-- The application state once it has taken over the settings. -/
def holding (store : StateStore) (settings : Settings) : StateStore :=
  { store with state := .ofSettings settings }

/-- The workbench once settings are taken over, before they are written down. -/
def takenOver (bench : Workbench) (stored : Settings) : Workbench :=
  { bench with
    store := holding bench.store stored
    notifications := bench.notifications ++ [.success "Settings updated"] }

section Runs

variable (bench : Workbench) (view : SettingsView)

theorem load_run (readable : bench.server.refusesFetch = none) :
    (load.run Workbench.answer bench).value = .ok (.ofSettings bench.server.stored) ∧
      (load.run Workbench.answer bench).state = bench := by
  have reply : (Workbench.answer .fetch bench).1 = .ok bench.server.stored := by
    rw [Workbench.answer, SettingsServer.fetch, readable]
  unfold load
  rw [bind_eq, value_run_bind, state_run_bind, fetch_puts.value_run, fetch_puts.state_run, reply]
  exact ⟨rfl, rfl⟩

theorem applyUpdates_run (updates : List AppState.Update) :
    ((applyUpdates updates).run Workbench.answer bench).state =
      { bench with store := { bench.store with state := bench.store.state.applyAll updates } } := by
  induction updates generalizing bench with
  | nil => rfl
  | cons update rest ih =>
    rw [applyUpdates, bind_eq, state_run_bind, ih]
    rfl

theorem refresh_flushing (stored : Settings) :
    let taken := takenOver bench stored
    let flushed := Workbench.answer .flush taken
    ((refresh view stored).run Workbench.answer bench).value =
        ((reload view flushed.1).run Workbench.answer flushed.2).value ∧
      ((refresh view stored).run Workbench.answer bench).state =
        ((reload view flushed.1).run Workbench.answer flushed.2).state := by
  intro taken flushed
  let told : Workbench :=
    { bench with notifications := bench.notifications ++ [.success "Settings updated"] }
  have notified : Workbench.answer (.notify (.success "Settings updated")) bench = ((), told) := rfl
  have updated :
      ((applyUpdates (AppState.updatesOf stored)).run Workbench.answer told).state = taken :=
    applyUpdates_run told _
  rw [refresh_eq]
  simp only [Program.run, value_run_bind, state_run_bind, notified, updated]
  exact ⟨rfl, rfl⟩

theorem refresh_run (readable : bench.server.refusesFetch = none) (stored : Settings) {disk : Disk}
    (flushed : (holding bench.store stored).flush bench.disk = .ok disk) :
    ((refresh view stored).run Workbench.answer bench).value =
        (.ok (), .ofSettings bench.server.stored) ∧
      ((refresh view stored).run Workbench.answer bench).state =
        { bench with
          store := holding bench.store stored
          disk
          notifications := bench.notifications ++ [.success "Settings updated"] } := by
  have flush : Workbench.answer .flush (takenOver bench stored) =
      (.ok (), { takenOver bench stored with disk }) := by
    rw [Workbench.answer, takenOver, flushed]
  obtain ⟨value, state⟩ := load_run { takenOver bench stored with disk } readable
  obtain ⟨sameValue, sameState⟩ := refresh_flushing bench view stored
  rw [sameValue, sameState, flush]
  simp only [reload, bind_eq, value_run_bind, state_run_bind, value, state]
  exact ⟨rfl, rfl⟩

theorem refresh_unflushed (stored : Settings) {problem : Problem}
    (unflushed : (holding bench.store stored).flush bench.disk = .error problem) :
    ((refresh view stored).run Workbench.answer bench).value = (.error problem, view) ∧
      ((refresh view stored).run Workbench.answer bench).state = takenOver bench stored := by
  have flush : Workbench.answer .flush (takenOver bench stored) =
      (.error problem, takenOver bench stored) := by
    rw [Workbench.answer, takenOver, unflushed]
  obtain ⟨sameValue, sameState⟩ := refresh_flushing bench view stored
  rw [sameValue, sameState, flush]
  exact ⟨rfl, rfl⟩

/-- Once the server has taken the settings, a write goes on with refreshing. -/
theorem write_stored (faithful : bench.normalize = id)
    (takes : bench.server.refusesStore = none) :
    let taken := { bench with server := taking bench.server view.settings }
    ((write view).run Workbench.answer bench).value =
        ((refresh view view.settings).run Workbench.answer taken).value ∧
      ((write view).run Workbench.answer bench).state =
        ((refresh view view.settings).run Workbench.answer taken).state := by
  intro taken
  have stored : Workbench.answer (.store view.settings) bench = (.ok view.settings, taken) := by
    simp only [Workbench.answer, SettingsServer.store, takes, faithful, taken, taking, id]
  have puts := store_puts view.settings
  unfold write
  rw [bind_eq, value_run_bind, state_run_bind, puts.value_run, puts.state_run, stored]
  exact ⟨rfl, rfl⟩

theorem write_taken (readable : bench.server.refusesFetch = none) (faithful : bench.normalize = id)
    (takes : bench.server.refusesStore = none) {disk : Disk}
    (flushed : (holding bench.store view.settings).flush bench.disk = .ok disk) :
    ((write view).run Workbench.answer bench).value = (.ok (), .ofSettings view.settings) ∧
      ((write view).run Workbench.answer bench).state =
        { bench with
          server := taking bench.server view.settings
          store := holding bench.store view.settings
          disk
          notifications := bench.notifications ++ [.success "Settings updated"] } := by
  obtain ⟨value, state⟩ := write_stored bench view faithful takes
  rw [value, state]
  exact refresh_run { bench with server := taking bench.server view.settings } view readable
    view.settings flushed

theorem write_refused {cause : Cause} (refuses : bench.server.refusesStore = some cause) :
    ((write view).run Workbench.answer bench).value = (.error (.service (unstored cause)), view) ∧
      ((write view).run Workbench.answer bench).state =
        { bench with
          notifications :=
            bench.notifications ++ [.failure "Failure" updateMessage (unstored cause)] } := by
  have stored : Workbench.answer (.store view.settings) bench = (.error cause, bench) := by
    rw [Workbench.answer, SettingsServer.store, refuses]
  have puts := store_puts view.settings
  unfold write
  rw [bind_eq, value_run_bind, state_run_bind, puts.value_run, puts.state_run, stored]
  exact ⟨rfl, rfl⟩

end Runs

/-- What writing relies on: a server that answers and keeps what it is sent, and a file that can be
written. -/
structure Reliable (store : StateStore) (desk : Desk) : Prop where
  readable : desk.bench.server.refusesFetch = none
  faithful : desk.bench.normalize = id
  path : desk.bench.store.path = store.path
  writable : ∀ path, store.path = some path → desk.bench.disk.Writable path

/-- What an action can do at a reliable desk. -/
inductive Acted (desk : Desk) (action : Action) : Except Problem Unit × Desk → Prop
  | loaded (reading : action = .load) :
    Acted desk action (.ok (), ⟨desk.bench, .ofSettings desk.bench.server.stored⟩)
  | written (made disk inProgress notifications)
      (edited : action.edit desk.view.form desk.view.settings = some made)
      (takes : desk.bench.server.refusesStore = none)
      (flushed : (holding desk.bench.store made).flush desk.bench.disk = .ok disk) :
    Acted desk action
      (.ok (),
        ⟨{ desk.bench with
            server := taking desk.bench.server made
            store := holding desk.bench.store made
            disk, inProgress, notifications },
          .ofSettings made⟩)
  | failed (problem view inProgress notifications) (writing : action ≠ .load)
      (unfit : action.edit desk.view.form desk.view.settings = none ∨
        desk.bench.server.refusesStore ≠ none) :
    Acted desk action (.error problem, ⟨{ desk.bench with inProgress, notifications }, view⟩)

theorem write_acted {store : StateStore} {desk : Desk} (reliable : Reliable store desk)
    (action : Action) {made : Settings}
    (edited : action.edit desk.view.form desk.view.settings = some made)
    (inProgress finished : Bool) :
    let bench := { desk.bench with inProgress }
    let run := (write { desk.view with settings := made }).run Workbench.answer bench
    Acted desk action (run.value.1, ⟨{ run.state with inProgress := finished }, run.value.2⟩) := by
  intro bench run
  let view : SettingsView := { desk.view with settings := made }
  have writing : action ≠ .load := by
    rintro rfl
    cases edited
  cases refuses : desk.bench.server.refusesStore with
  | some cause =>
    have outcome := write_refused bench view refuses
    rw [outcome.1, outcome.2]
    exact .failed _ _ _ _ writing (.inr (by simp [refuses]))
  | none =>
    have writable : ∀ path, (holding desk.bench.store made).path = some path →
        desk.bench.disk.Writable path :=
      fun path backed => reliable.writable path (reliable.path.symm.trans backed)
    obtain ⟨disk, flushed⟩ := StateStore.exists_flush writable
    have outcome := write_taken bench view reliable.readable reliable.faithful refuses
      flushed
    rw [outcome.1, outcome.2]
    exact .written made disk _ _ edited refuses flushed

theorem act_acted {store : StateStore} {desk : Desk} (reliable : Reliable store desk)
    (action : Action) : Acted desk action (desk.act action) := by
  cases action with
  | load =>
    have outcome := load_run desk.bench reliable.readable
    have acted : desk.act .load = (.ok (), ⟨desk.bench, .ofSettings desk.bench.server.stored⟩) := by
      unfold Desk.act Action.session
      rw [bind_eq]
      simp only [value_run_bind, state_run_bind, outcome.1, outcome.2]
      rfl
    rw [acted]
    exact .loaded rfl
  | save =>
    have acted := write_acted reliable .save rfl true false
    unfold Desk.act
    rw [save_session]
    simp only [Program.run, value_run_bind, state_run_bind]
    exact acted
  | addLabel => exact write_acted reliable .addLabel rfl desk.bench.inProgress _
  | removeLabel index =>
    by_cases inside : index < desk.view.settings.filteredLabels.length
    · unfold Desk.act
      rw [removeLabel_session_inside inside]
      exact write_acted reliable (.removeLabel index) (if_pos inside) desk.bench.inProgress _
    · have writing : Action.removeLabel index ≠ .load := by
        intro reading
        cases reading
      unfold Desk.act
      rw [removeLabel_session_outside inside]
      exact .failed _ _ _ _ writing (.inl (if_neg inside))

/-- All is as the last of the recorded writes left it, or as it began. -/
structure Agrees (settings : Settings) (store : StateStore) (disk : Disk) (desk : Desk) : Prop where
  stored : desk.bench.server.stored = desk.bench.server.writes.getLast?.getD settings
  state : desk.bench.store.state =
    (desk.bench.server.writes.getLast?.map AppState.ofSettings).getD store.state
  untouched : desk.bench.server.writes = [] ∨ store.path = none → desk.bench.disk = disk
  file : ∀ path, store.path = some path → desk.bench.server.writes ≠ [] →
    StateStore.load desk.bench.disk path = .ok desk.bench.store

/-- What an action did to the record of writes and to the view. -/
structure Carried (desk : Desk) (action : Action) (outcome : Except Problem Unit × Desk) :
    Prop where
  succeeds : outcome.1 = .ok () ↔ action = .load ∨
    (∃ made, action.edit desk.view.form desk.view.settings = some made) ∧
      desk.bench.server.refusesStore = none
  recorded : outcome.1 = .ok () → action ≠ .load →
    ∃ made, action.edit desk.view.form desk.view.settings = some made ∧
      outcome.2.bench.server.writes = desk.bench.server.writes ++ [made]
  unrecorded : action = .load ∨ outcome.1 ≠ .ok () →
    outcome.2.bench.server.writes = desk.bench.server.writes
  shown : outcome.1 = .ok () → outcome.2.view = .ofSettings outcome.2.bench.server.stored

section Steps

variable {settings : Settings} {store : StateStore} {disk : Disk} {desk : Desk} {action : Action}
  {outcome : Except Problem Unit × Desk}

theorem Acted.carried (acted : Acted desk action outcome) : Carried desk action outcome := by
  cases acted with
  | loaded reading =>
    exact ⟨by simp [reading], fun _ writing => absurd reading writing, fun _ => rfl, fun _ => rfl⟩
  | written made disk inProgress notifications edited takes flushed =>
    have writing : action ≠ .load := by
      rintro rfl
      cases edited
    refine ⟨by simp [edited, takes], fun _ _ => ⟨made, edited, rfl⟩, ?_, fun _ => rfl⟩
    rintro (reading | failed)
    · exact absurd reading writing
    · exact absurd rfl failed
  | failed problem view inProgress notifications writing unfit =>
    refine ⟨?_, fun done => (nomatch done), fun _ => rfl, fun done => (nomatch done)⟩
    refine ⟨fun done => (nomatch done), ?_⟩
    rintro (reading | ⟨⟨made, edited⟩, takes⟩)
    · exact absurd reading writing
    · rcases unfit with unedited | refuses
      · rw [unedited] at edited
        cases edited
      · exact absurd takes refuses

theorem Acted.reliable (reliable : Reliable store desk) (acted : Acted desk action outcome) :
    Reliable store outcome.2 := by
  cases acted with
  | loaded reading => exact { reliable with }
  | written made written inProgress notifications edited takes flushed =>
    refine ⟨reliable.readable, reliable.faithful, reliable.path, fun path backed => ?_⟩
    have own : (holding desk.bench.store made).path = some path := reliable.path.trans backed
    exact Disk.Writable.after_write ((StateStore.flush_eq_ok_iff own).mp flushed)
  | failed problem view inProgress notifications writing unfit => exact { reliable with }

theorem Acted.agrees (reliable : Reliable store desk) (agrees : Agrees settings store disk desk)
    (acted : Acted desk action outcome) : Agrees settings store disk outcome.2 := by
  cases acted with
  | loaded reading => exact { agrees with }
  | written made written inProgress notifications edited takes flushed =>
    refine ⟨?_, ?_, ?_, fun path backed _ => ?_⟩
    · simp [taking]
    · simp [taking, holding]
    · rintro (unwritten | unbacked)
      · simp [taking] at unwritten
      · have own : (holding desk.bench.store made).path = none := reliable.path.trans unbacked
        rw [StateStore.flush_unbacked own] at flushed
        cases flushed
        exact agrees.untouched (.inr unbacked)
    · have own : (holding desk.bench.store made).path = some path := reliable.path.trans backed
      exact StateStore.load_flush own flushed
  | failed problem view inProgress notifications writing unfit => exact { agrees with }

theorem step_upholds (reliable : Reliable store desk) (agrees : Agrees settings store disk desk)
    (event : Event) :
    Reliable store (desk.step event) ∧ Agrees settings store disk (desk.step event) := by
  cases event with
  | act action =>
    have acted := act_acted reliable action
    exact ⟨acted.reliable reliable, acted.agrees reliable agrees⟩
  | fill form => exact ⟨{ reliable with }, { agrees with }⟩
  | refuse cause => exact ⟨{ reliable with }, { agrees with }⟩

theorem run_upholds (reliable : Reliable store desk) (agrees : Agrees settings store disk desk)
    (events : List Event) :
    Reliable store (desk.run events) ∧ Agrees settings store disk (desk.run events) := by
  induction events generalizing desk with
  | nil => exact ⟨reliable, agrees⟩
  | cons event events ih =>
    obtain ⟨next, same⟩ := step_upholds reliable agrees event
    exact ih next same

end Steps

/-- After any events, the server and the application state with its file are as the last of the
recorded writes left them. Any further action that succeeds shows what the server has; it adds one
write to the record if it is to write, and none if it is to load or does not succeed. -/
theorem editor_agrees (settings : Settings) (store : StateStore) (disk : Disk) (view : SettingsView)
    (events : List Event) (writable : ∀ path, store.path = some path → disk.Writable path) :
    let desk := (Desk.start settings store disk view).run events
    Agrees settings store disk desk ∧ ∀ action, Carried desk action (desk.act action) := by
  have reliable : Reliable store (Desk.start settings store disk view) := ⟨rfl, rfl, rfl, writable⟩
  have agrees : Agrees settings store disk (Desk.start settings store disk view) :=
    ⟨rfl, rfl, fun _ => rfl, fun _ _ written => absurd rfl written⟩
  obtain ⟨reliable, agrees⟩ := run_upholds reliable agrees events
  exact ⟨agrees, fun action => (act_acted reliable action).carried⟩

private def tracked : Settings := { snapshotInterval := "5m", enableTelemetry := true }

private def labelled : Settings := { tracked with filteredLabels := [⟨"team", "ops"⟩] }

/-- A save, a label that is refused, and the next save, which takes that label along. -/
private def refusedBetween : List Event :=
  let form := SettingsForm.ofSettings tracked
  [.act .load, .fill form, .act .save, .fill { form with labelName := "team", labelValue := "ops" },
    .refuse (some (.status 500 "status 500")), .act .addLabel, .refuse none, .act .save]

private def kept : StateStore := { path := some "state.json", state := { logo := "old" } }

theorem editor_agrees_after_refusal :
    let desk := (Desk.start { snapshotInterval := "5m" } kept {} {}).run refusedBetween
    (∀ path, kept.path = some path → ({} : Disk).Writable path) ∧
      desk.bench.server.writes = [tracked, labelled] ∧
      desk.bench.server.stored = labelled ∧
      desk.bench.store.state = .ofSettings labelled ∧
      StateStore.load desk.bench.disk "state.json" = .ok desk.bench.store ∧
      Carried desk (.removeLabel 0) (desk.act (.removeLabel 0)) := by
  have writable : ∀ path, kept.path = some path → ({} : Disk).Writable path := by
    rintro path same
    cases same
    exact fun _ => ⟨_, rfl⟩
  obtain ⟨⟨stored, state, -, file⟩, carried⟩ :=
    editor_agrees { snapshotInterval := "5m" } kept {} {} refusedBetween writable
  have writes : ((Desk.start { snapshotInterval := "5m" } kept {} {}).run
      refusedBetween).bench.server.writes = [tracked, labelled] := rfl
  rw [writes] at stored state
  exact ⟨writable, writes, stored, state, file "state.json" rfl (by simp [writes]), carried _⟩

end ClusterDesk.Editor
