import ClusterDesk.StateStore
import Mathlib.Logic.Function.Basic

/-!
The application state as twelve registers. An update writes one of them, and what a register holds
after any updates is what was written to it last. Main statement: `updates_as_registers`.
-/

namespace ClusterDesk

/-- Where each step writes to a register or leaves it, it holds what was written last. -/
theorem last_written {State Step Value : Type} (apply : State → Step → State)
    (held : State → Value) (written? : Step → Option Value)
    (law : ∀ state step, held (apply state step) = (written? step).getD (held state))
    (state : State) (steps : List Step) :
    held (steps.foldl apply state) =
      ((steps.filterMap written?).getLast?).getD (held state) := by
  induction steps generalizing state with
  | nil => rfl
  | cons step rest ih =>
    rw [List.foldl_cons, ih, law]
    cases wrote : written? step with
    | none => rw [List.filterMap_cons_none wrote, Option.getD_none]
    | some value =>
      rw [List.filterMap_cons_some wrote, List.getLast?_cons, Option.getD_some, Option.getD_some]

namespace AppState

inductive Field where
  | logo | snapshotInterval | enableHostManagement | enableVolumeBrowser | allowHostNamespace
  | enableEdgeCompute | allowDeviceMapping | allowStackManagement | allowContainerCapabilities
  | allowPrivilegedMode | allowBindMounts | enableTelemetry
  deriving DecidableEq, Repr

abbrev Field.Value : Field → Type
  | logo | snapshotInterval => String
  | enableHostManagement | enableVolumeBrowser | allowHostNamespace | enableEdgeCompute
  | allowDeviceMapping | allowStackManagement | allowContainerCapabilities | allowPrivilegedMode
  | allowBindMounts | enableTelemetry => Bool

def held (state : AppState) : (field : Field) → field.Value
  | .logo => state.logo
  | .snapshotInterval => state.snapshotInterval
  | .enableHostManagement => state.enableHostManagement
  | .enableVolumeBrowser => state.enableVolumeBrowser
  | .allowHostNamespace => state.allowHostNamespace
  | .enableEdgeCompute => state.enableEdgeCompute
  | .allowDeviceMapping => state.allowDeviceMapping
  | .allowStackManagement => state.allowStackManagement
  | .allowContainerCapabilities => state.allowContainerCapabilities
  | .allowPrivilegedMode => state.allowPrivilegedMode
  | .allowBindMounts => state.allowBindMounts
  | .enableTelemetry => state.enableTelemetry

/-- The field that an update is of. -/
def Update.field : Update → Field
  | logo _ => .logo
  | snapshotInterval _ => .snapshotInterval
  | enableHostManagement _ => .enableHostManagement
  | enableVolumeBrowser _ => .enableVolumeBrowser
  | allowHostNamespace _ => .allowHostNamespace
  | enableEdgeCompute _ => .enableEdgeCompute
  | allowDeviceMapping _ => .allowDeviceMapping
  | allowStackManagement _ => .allowStackManagement
  | allowContainerCapabilities _ => .allowContainerCapabilities
  | allowPrivilegedMode _ => .allowPrivilegedMode
  | allowBindMounts _ => .allowBindMounts
  | enableTelemetry _ => .enableTelemetry

def Update.payload : (update : Update) → update.field.Value
  | logo value | snapshotInterval value => value
  | enableHostManagement value | enableVolumeBrowser value | allowHostNamespace value
  | enableEdgeCompute value | allowDeviceMapping value | allowStackManagement value
  | allowContainerCapabilities value | allowPrivilegedMode value | allowBindMounts value
  | enableTelemetry value => value

/-- What an update writes to the field, if it is of that field. -/
def Field.written? (field : Field) (update : Update) : Option field.Value :=
  if same : update.field = field then some (same ▸ update.payload) else none

theorem held_ext {first second : AppState} (same : ∀ field, first.held field = second.held field) :
    first = second := by
  have whole : ∀ state : AppState, state =
      ⟨state.held .logo, state.held .snapshotInterval, state.held .enableHostManagement,
        state.held .enableVolumeBrowser, state.held .allowHostNamespace,
        state.held .enableEdgeCompute, state.held .allowDeviceMapping,
        state.held .allowStackManagement, state.held .allowContainerCapabilities,
        state.held .allowPrivilegedMode, state.held .allowBindMounts,
        state.held .enableTelemetry⟩ := fun _ => rfl
  rw [whole first, whole second]
  simp only [same]

/-- An update writes its own field and leaves the others. -/
theorem held_apply (update : Update) (state : AppState) :
    (update.apply state).held = Function.update state.held update.field update.payload := by
  funext field
  cases update <;> cases field <;> rfl

theorem held_apply_field (update : Update) (state : AppState) (field : Field) :
    (update.apply state).held field = (field.written? update).getD (state.held field) := by
  rw [held_apply]
  by_cases same : update.field = field
  · subst same
    have written : update.field.written? update = some update.payload := dif_pos rfl
    rw [Function.update_self, written, Option.getD_some]
  · have other : field.written? update = none := dif_neg same
    rw [Function.update_of_ne (Ne.symm same), other, Option.getD_none]

theorem held_applyAll (state : AppState) (updates : List Update) (field : Field) :
    (state.applyAll updates).held field =
      ((updates.filterMap field.written?).getLast?).getD (state.held field) :=
  last_written (fun state update => update.apply state) (fun state => state.held field)
    field.written? (fun state update => held_apply_field update state field) state updates

theorem apply_comm {first second : Update} (apart : first.field ≠ second.field)
    (state : AppState) : first.apply (second.apply state) = second.apply (first.apply state) := by
  refine held_ext fun field => congrFun ?_ field
  rw [held_apply, held_apply, held_apply, held_apply]
  exact Function.update_comm apart.symm _ _ _

theorem written_updatesOf (settings : Settings) (field : Field) :
    (updatesOf settings).filterMap field.written? = [(ofSettings settings).held field] := by
  cases field <;> rfl

/-- In whatever order the updates of all fields come, nothing of the state before is left. -/
theorem applyAll_perm {settings : Settings} {updates : List Update}
    (permuted : updates.Perm (updatesOf settings)) (state : AppState) :
    state.applyAll updates = ofSettings settings := by
  refine held_ext fun field => ?_
  have once := permuted.filterMap field.written?
  rw [written_updatesOf, List.perm_singleton] at once
  rw [held_applyAll, once]
  rfl

end AppState

namespace StateStore

open AppState (Update Field updatesOf ofSettings)

theorem foldl_apply (store : StateStore) (updates : List Update) :
    updates.foldl apply store = { store with state := store.state.applyAll updates } := by
  induction updates generalizing store with
  | nil => rfl
  | cons update rest ih => exact ih (store.apply update)

/-- Each field has the value of the last update of its own kind, or else the one that it had.
Updates of different fields can be exchanged, and those made of settings come to the same state in
any order and from any state: the one that has the settings in all of its fields. -/
theorem updates_as_registers (store : StateStore) :
    (∀ (updates : List Update) (field : Field),
      (updates.foldl apply store).state.held field =
        ((updates.filterMap field.written?).getLast?).getD (store.state.held field)) ∧
    (∀ first second : Update, first.field ≠ second.field →
      (store.apply first).apply second = (store.apply second).apply first) ∧
    ∀ (settings : Settings) (updates : List Update), updates.Perm (updatesOf settings) →
      (updates.foldl apply store).state = ofSettings settings := by
  refine ⟨fun updates field => ?_, fun first second apart => ?_,
    fun settings updates permuted => ?_⟩
  · rw [foldl_apply]
    exact AppState.held_applyAll store.state updates field
  · have exchanged := AppState.apply_comm apart.symm store.state
    exact congrArg (StateStore.mk store.path) exchanged
  · rw [foldl_apply]
    exact AppState.applyAll_perm permuted store.state

/-- The updates from the last to the first, over a state left by other settings. -/
theorem updates_as_registers_reversed :
    let settings : Settings :=
      { logoUrl := "logo", snapshotInterval := "5m", allowVolumeBrowser := true }
    let stale : StateStore :=
      { state := { logo := "old", enableHostManagement := true, enableTelemetry := true } }
    Update.field (.logo "new") ≠ Update.field (.enableTelemetry false) ∧
      (stale.apply (.logo "new")).apply (.enableTelemetry false) =
        (stale.apply (.enableTelemetry false)).apply (.logo "new") ∧
      (updatesOf settings).reverse.Perm (updatesOf settings) ∧
      ((updatesOf settings).reverse.foldl apply stale).state =
        { logo := "logo", snapshotInterval := "5m", enableVolumeBrowser := true } := by
  intro settings stale
  have apart : Update.field (.logo "new") ≠ Update.field (.enableTelemetry false) := by decide
  have permuted := List.reverse_perm (updatesOf settings)
  obtain ⟨-, exchanged, refreshed⟩ := updates_as_registers stale
  exact ⟨apart, exchanged _ _ apart, permuted, refreshed settings _ permuted⟩

end StateStore

end ClusterDesk
