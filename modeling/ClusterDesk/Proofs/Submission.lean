import ClusterDesk.Editor.Workbench
import ClusterDesk.Proofs.Conversation
import ClusterDesk.Proofs.FormView

/-!
What operations on a view ask of their surroundings, whoever answers. An operation sends the edited
settings at most once, and goes on until something fails; `Ends` lists the ways. Main statement:
`refused_write_keeps_form`, on what a view is left as when the server does not take the settings.
-/

namespace ClusterDesk.Editor

open Program

abbrev Talk : Type := List (Exchange Question Answer)

inductive Action where
  | load
  | save
  | addLabel
  | removeLabel (index : Nat)
  deriving DecidableEq

def Action.session (view : SettingsView) : Action → Session Outcome
  | .load => do
    match ← Editor.load with
    | .ok fresh => return (.ok (), fresh)
    | .error problem => return (.error problem, view)
  | .save => Editor.save view
  | .addLabel => Editor.addLabel view
  | .removeLabel index => Editor.removeLabel view index

/-- What an action makes of the settings before it sends them; nothing when it sends none. -/
def Action.edit (form : SettingsForm) (settings : Settings) : Action → Option Settings
  | .load => none
  | .save => some (form.apply settings)
  | .addLabel =>
    some { settings with filteredLabels := settings.filteredLabels ++ [form.filteredLabel] }
  | .removeLabel index =>
    if index < settings.filteredLabels.length then
      some { settings with filteredLabels := settings.filteredLabels.eraseIdx index }
    else none

/-- The settings sent in a talk, in order. -/
def sent (talk : Talk) : List Settings :=
  talk.filterMap fun step =>
    match step with
    | ⟨.store settings, _⟩ => some settings
    | _ => none

def failureNotice (message : String) (error : ServiceError Cause) : Question :=
  .notify (.failure "Failure" message error)

/-- A success is told, and every field of the application state updated. -/
def takeover (stored : Settings) : Talk :=
  ⟨.notify (.success "Settings updated"), ()⟩ ::
    (AppState.updatesOf stored).map fun update => ⟨.update update, ()⟩

def unstored (cause : Cause) : ServiceError Cause := ⟨.update, updateMessage, cause⟩

def unfetched (cause : Cause) : ServiceError Cause := ⟨.retrieve, retrieveMessage, cause⟩

/-- How writing the settings of a view goes, up to the first failure. -/
inductive Ends (view : SettingsView) : Talk → Outcome → Prop
  | refused (cause) : Ends view
    [⟨.store view.settings, .error cause⟩,
      ⟨failureNotice updateMessage (unstored cause), ()⟩]
    (.error (.service (unstored cause)), view)
  | unflushed (stored problem) : Ends view
    (⟨.store view.settings, .ok stored⟩ :: takeover stored ++ [⟨.flush, .error problem⟩])
    (.error problem, view)
  | unread (stored cause) : Ends view
    (⟨.store view.settings, .ok stored⟩ :: takeover stored ++
      [⟨.flush, .ok ()⟩, ⟨.fetch, .error cause⟩,
        ⟨failureNotice retrieveMessage (unfetched cause), ()⟩])
    (.error (.service (unfetched cause)), view)
  | done (stored fresh) : Ends view
    (⟨.store view.settings, .ok stored⟩ :: takeover stored ++
      [⟨.flush, .ok ()⟩, ⟨.fetch, .ok fresh⟩])
    (.ok (), .ofSettings fresh)

section Talks

variable {σ : Type} (answer : (question : Question) → σ → Answer question × σ) (state : σ)

theorem fetch_puts : Puts Question.fetch (fun reply => reply.mapError unfetched) fetch := by
  refine .note _ _ (.ask _ fun reply => ?_)
  cases reply <;> rfl

theorem store_puts (settings : Settings) :
    Puts (Question.store settings) (fun reply => reply.mapError unstored) (store settings) := by
  refine .note _ _ (.ask _ fun reply => ?_)
  cases reply <;> rfl

theorem applyUpdate_puts (update : AppState.Update) :
    Puts (Question.update update) (fun reply => reply) (applyUpdate update) :=
  .note _ _ (.ask _ fun _ => rfl)

theorem exchanges_applyUpdates (updates : List AppState.Update) :
    (applyUpdates updates).exchanges answer state =
      updates.map fun update => ⟨.update update, ()⟩ := by
  induction updates generalizing state with
  | nil => rfl
  | cons update rest ih =>
    have puts := applyUpdate_puts update
    rw [applyUpdates, bind_eq, exchanges_bind, puts.exchanges_eq, ih]
    rfl

theorem load_talk :
    (∃ fresh, (answer .fetch state).1 = .ok fresh ∧
      load.exchanges answer state = [⟨.fetch, .ok fresh⟩] ∧
      (load.run answer state).value = .ok (.ofSettings fresh)) ∨
    ∃ cause, (answer .fetch state).1 = .error cause ∧
      load.exchanges answer state =
        [⟨.fetch, .error cause⟩, ⟨failureNotice retrieveMessage (unfetched cause), ()⟩] ∧
      (load.run answer state).value = .error (.service (unfetched cause)) := by
  unfold load
  rw [bind_eq, exchanges_bind, value_run_bind, fetch_puts.exchanges_eq, fetch_puts.value_run,
    fetch_puts.state_run]
  cases reply : (answer .fetch state).1 with
  | ok fresh => exact .inl ⟨fresh, rfl, rfl, rfl⟩
  | error cause => exact .inr ⟨cause, rfl, rfl, rfl⟩

/-- What follows a try to write the application state down. -/
def reload (view : SettingsView) : Except Problem Unit → Session Outcome
  | .error problem => return (.error problem, view)
  | .ok () => do
    match ← load with
    | .error problem => return (.error problem, view)
    | .ok fresh => return (.ok (), fresh)

theorem refresh_eq (view : SettingsView) (stored : Settings) :
    refresh view stored = .ask (.notify (.success "Settings updated")) fun _ =>
      (applyUpdates (AppState.updatesOf stored)).bind fun _ => .ask .flush (reload view) := rfl

theorem refresh_ends (view : SettingsView) (stored : Settings) :
    Ends view
      (⟨.store view.settings, .ok stored⟩ :: (refresh view stored).exchanges answer state)
      ((refresh view stored).run answer state).value := by
  rw [refresh_eq]
  simp only [exchanges, run, exchanges_bind, value_run_bind, exchanges_applyUpdates]
  generalize ((applyUpdates (AppState.updatesOf stored)).run answer _).state = updated
  cases (answer .flush updated).1 with
  | error problem => exact .unflushed stored problem
  | ok _ =>
    simp only [reload, bind_eq, exchanges_bind, value_run_bind]
    rcases load_talk answer (answer .flush updated).2 with
      ⟨fresh, -, talk, value⟩ | ⟨cause, -, talk, value⟩
    · rw [talk, value]
      exact .done stored fresh
    · rw [talk, value]
      exact .unread stored cause

theorem write_ends (view : SettingsView) :
    Ends view ((write view).exchanges answer state) ((write view).run answer state).value := by
  unfold write
  have puts := store_puts view.settings
  rw [bind_eq, exchanges_bind, value_run_bind, puts.exchanges_eq, puts.value_run, puts.state_run]
  cases reply : (answer (.store view.settings) state).1 with
  | error cause => exact .refused cause
  | ok stored => exact refresh_ends answer _ view stored

end Talks

/-- The talk of an action around that of the write in it. -/
def Action.framed (talk : Talk) : Action → Talk
  | .save => ⟨.progress true, ()⟩ :: talk ++ [⟨.progress false, ()⟩]
  | _ => talk

section Actions

variable {σ : Type} {answer : (question : Question) → σ → Answer question × σ} {state : σ}
  {view : SettingsView} {action : Action} {settings : Settings}

theorem save_session (view : SettingsView) :
    Action.session view .save = .ask (.progress true) fun _ =>
      (write { view with settings := view.form.apply view.settings }).bind fun outcome =>
        .ask (.progress false) fun _ => .done outcome := rfl

theorem removeLabel_session_inside {index : Nat}
    (inside : index < view.settings.filteredLabels.length) :
    Action.session view (.removeLabel index) =
      write (withLabels view (view.settings.filteredLabels.eraseIdx index)) := if_pos inside

theorem removeLabel_session_outside {index : Nat}
    (outside : ¬ index < view.settings.filteredLabels.length) :
    Action.session view (.removeLabel index) = .done (.error (.noSuchLabel index), view) :=
  if_neg outside

theorem action_ends (answer : (question : Question) → σ → Answer question × σ) (state : σ)
    (edited : action.edit view.form view.settings = some settings) :
    ∃ talk, (action.session view).exchanges answer state = action.framed talk ∧
      Ends { view with settings } talk ((action.session view).run answer state).value := by
  cases action with
  | load => cases edited
  | save =>
    cases edited
    let edited : SettingsView := { view with settings := view.form.apply view.settings }
    let begun := (answer (.progress true) state).2
    have talk : (Action.session view .save).exchanges answer state =
        Action.framed ((write edited).exchanges answer begun) .save := by
      rw [save_session]
      exact congrArg (⟨.progress true, ()⟩ :: ·) (exchanges_bind answer (write edited) _ begun)
    have value : ((Action.session view .save).run answer state).value =
        ((write edited).run answer begun).value := by
      rw [save_session, run, value_run_bind]
      rfl
    rw [value]
    exact ⟨_, talk, write_ends answer begun edited⟩
  | addLabel =>
    cases edited
    exact ⟨_, rfl, write_ends answer state _⟩
  | removeLabel index =>
    rw [Action.edit] at edited
    split at edited
    · next inside =>
      cases edited
      rw [removeLabel_session_inside inside]
      exact ⟨_, rfl, write_ends answer state _⟩
    · cases edited

theorem sent_append (first second : Talk) : sent (first ++ second) = sent first ++ sent second :=
  List.filterMap_append

theorem mem_sent {talk : Talk} {reply : Answer (.store settings)}
    (told : ⟨.store settings, reply⟩ ∈ talk) : settings ∈ sent talk :=
  List.mem_filterMap.mpr ⟨_, told, rfl⟩

theorem Ends.sent_eq {talk : Talk} {outcome : Outcome} (ends : Ends view talk outcome) :
    sent talk = [view.settings] := by
  cases ends <;> rfl

theorem sent_framed (talk : Talk) : sent (action.framed talk) = sent talk := by
  cases action with
  | save => exact (sent_append _ _).trans (List.append_nil _)
  | load => rfl
  | addLabel => rfl
  | removeLabel index => rfl

/-- An action that does not get to writing only reads, if it asks anything. -/
theorem sent_unedited (unedited : action.edit view.form view.settings = none) :
    sent ((action.session view).exchanges answer state) = [] := by
  cases action with
  | load =>
    rw [Action.session, bind_eq, exchanges_bind]
    rcases load_talk answer state with ⟨fresh, -, talk, value⟩ | ⟨cause, -, talk, value⟩
    · rw [talk, value]
      rfl
    · rw [talk, value]
      rfl
  | save => cases unedited
  | addLabel => cases unedited
  | removeLabel index =>
    rw [Action.edit] at unedited
    split at unedited
    · cases unedited
    · next outside =>
      rw [removeLabel_session_outside outside]
      rfl

theorem sent_action : sent ((action.session view).exchanges answer state) =
    (action.edit view.form view.settings).toList := by
  cases edited : action.edit view.form view.settings with
  | some settings =>
    obtain ⟨talk, shape, ends⟩ := action_ends answer state edited
    rw [shape, sent_framed, ends.sent_eq]
    rfl
  | none => exact sent_unedited edited

theorem store_mem_framed {talk : Talk} {reply : Answer (.store settings)}
    (told : ⟨.store settings, reply⟩ ∈ action.framed talk) : ⟨.store settings, reply⟩ ∈ talk := by
  cases action with
  | save => simpa [Action.framed] using told
  | load => exact told
  | addLabel => exact told
  | removeLabel index => exact told

theorem not_mem_takeover {stored : Settings} {reply : Answer (.store settings)} :
    ⟨.store settings, reply⟩ ∉ takeover stored := by
  simp [takeover]

/-- Only the first question of a write stores, so a refusal is all there is. -/
theorem Ends.of_refused {talk : Talk} {outcome : Outcome} {cause : Cause}
    (ends : Ends view talk outcome) (refused : ⟨.store settings, .error cause⟩ ∈ talk) :
    settings = view.settings ∧ outcome = (.error (.service (unstored cause)), view) := by
  cases ends with
  | refused other =>
    obtain ⟨rfl, same⟩ : settings = view.settings ∧
        HEq (Except.error cause : Answer (.store settings))
          (Except.error other : Answer (.store view.settings)) := by
      simpa [failureNotice] using refused
    cases same
    exact ⟨rfl, rfl⟩
  | unflushed stored problem => simp [not_mem_takeover] at refused
  | unread stored other => simp [not_mem_takeover, failureNotice] at refused
  | done stored fresh => simp [not_mem_takeover] at refused

end Actions

/-- When the server does not take the settings, the form is what it was and the settings of the view
are those that were sent: they carry the edit already. Saving again sends the same settings; any
other action edits them once more, and sends nothing if the label to be removed is not there. -/
theorem refused_write_keeps_form {σ : Type}
    (answer : (question : Question) → σ → Answer question × σ) (state : σ) (view : SettingsView)
    (action : Action) (settings : Settings) (cause : Cause)
    (refused : ⟨.store settings, .error cause⟩ ∈ (action.session view).exchanges answer state) :
    action.edit view.form view.settings = some settings ∧
      sent ((action.session view).exchanges answer state) = [settings] ∧
      ((action.session view).run answer state).value =
        (.error (.service (unstored cause)), { view with settings }) ∧
      (∀ {τ : Type} (again : (question : Question) → τ → Answer question × τ) (later : τ),
        sent ((action.session { view with settings }).exchanges again later) =
          (action.edit view.form settings).toList) ∧
      (action = .save → action.edit view.form settings = some settings) ∧
      ∀ index, action = .removeLabel index → settings.filteredLabels.length ≤ index →
        action.session { view with settings } =
          .done (.error (.noSuchLabel index), { view with settings }) := by
  have edited : action.edit view.form view.settings = some settings := by
    have inside := mem_sent refused
    rw [sent_action] at inside
    exact Option.mem_toList.mp inside
  obtain ⟨talk, shape, ends⟩ := action_ends answer state edited
  rw [shape] at refused
  obtain ⟨-, value⟩ := ends.of_refused (store_mem_framed refused)
  refine ⟨edited, ?_, value, fun again later => sent_action, ?_, ?_⟩
  · rw [shape, sent_framed, ends.sent_eq]
  · rintro rfl
    cases edited
    exact congrArg some (SettingsForm.apply_again _ _)
  · rintro index rfl outside
    exact removeLabel_session_outside (Nat.not_lt.mpr outside)

private def unavailable : Cause := .status 503 "status 503"

private def refusing : Workbench := { server := { refusesStore := some unavailable } }

private def audited : SettingsView where
  settings := { filteredLabels := [⟨"team", "ops"⟩, ⟨"tier", "web"⟩] }
  form := { enableTelemetry := true }

/-- The first label is gone from the view after the refusal, and the second one goes with the next
try. -/
theorem refused_write_keeps_form_removal :
    let attempt := (Action.removeLabel 0).session audited
    let cut : Settings := { filteredLabels := [⟨"tier", "web"⟩] }
    let left : SettingsView := { audited with settings := cut }
    ⟨.store cut, .error unavailable⟩ ∈ attempt.exchanges Workbench.answer refusing ∧
      (attempt.run Workbench.answer refusing).value.2 = left ∧
      sent (((Action.removeLabel 0).session left).exchanges Workbench.answer {}) = [{}] := by
  intro attempt cut left
  have refused : ⟨.store cut, .error unavailable⟩ ∈
      attempt.exchanges Workbench.answer refusing := .head _
  obtain ⟨-, -, value, again, -⟩ :=
    refused_write_keeps_form Workbench.answer refusing audited (.removeLabel 0) _ _ refused
  exact ⟨refused, congrArg Prod.snd value, again Workbench.answer {}⟩

private def joining : SettingsView where
  form := { labelName := "team", labelValue := "ops" }

/-- A refused label stays in the view, and is sent twice by the next try. -/
theorem refused_label_sent_twice :
    let attempt := Action.addLabel.session joining
    let left := (attempt.run Workbench.answer refusing).value.2
    (attempt.run Workbench.answer refusing).value.1 = .error (.service (unstored unavailable)) ∧
      left ≠ joining ∧
      sent (attempt.exchanges Workbench.answer refusing) =
        [{ filteredLabels := [⟨"team", "ops"⟩] }] ∧
      sent ((Action.addLabel.session left).exchanges Workbench.answer {}) =
        [{ filteredLabels := [⟨"team", "ops"⟩, ⟨"team", "ops"⟩] }] := by
  refine ⟨rfl, ?_, rfl, rfl⟩
  intro same
  exact List.cons_ne_nil _ _ (congrArg (·.settings.filteredLabels) same)

end ClusterDesk.Editor
