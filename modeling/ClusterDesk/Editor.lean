import ClusterDesk.AppState
import ClusterDesk.Program
import ClusterDesk.Settings.Form

/-!
Editing settings on behalf of a user. Saving writes the whole settings object, takes over what the
server answers into the application state, writes that down, and reads the settings anew. Whatever
fails ends the operation at that point.
-/

namespace ClusterDesk

/-- The settings, and the form in which they are shown. -/
structure SettingsView where
  settings : Settings := {}
  form : SettingsForm := {}
  deriving DecidableEq, Inhabited

def SettingsView.ofSettings (settings : Settings) : SettingsView :=
  ⟨settings, .ofSettings settings⟩

/-- What the user is told. -/
inductive Notification where
  | success (text : String)
  | failure (title message : String) (error : ServiceError Cause)
  deriving DecidableEq, Repr

/-- A notification as it is logged. -/
def Notification.record : Notification → Log.Record
  | success text => ⟨.info, .notification, text⟩
  | failure title message error =>
    ⟨.error, .notification,
      title ++ ": " ++ message ++ " (" ++ ": ".intercalate error.chain ++ ")"⟩

namespace Editor

inductive Question where
  | fetch
  | store (settings : Settings)
  | update (update : AppState.Update)
  /-- Write the application state down. -/
  | flush
  /-- Say whether an action is in progress. -/
  | progress (flag : Bool)
  | notify (notification : Notification)
  deriving DecidableEq

abbrev Answer : Question → Type
  | .fetch => Except Cause Settings
  | .store _ => Except Cause Settings
  | .update _ => Unit
  | .flush => Except Problem Unit
  | .progress _ => Unit
  | .notify _ => Unit

abbrev Session (α : Type) : Type := Program Question Answer α

/-- How an operation on a view ended, and the view it left. -/
abbrev Outcome : Type := Except Problem Unit × SettingsView

def retrieveMessage : String := "Unable to retrieve application settings"

def updateMessage : String := "Unable to update settings"

def ask (question : Question) : Session (Answer question) := Program.query question

def fetch : Session (Except (ServiceError Cause) Settings) := do
  Program.log .debug .settings "Fetching settings"
  let answer ← ask .fetch
  match answer with
  | .ok settings => return .ok settings
  | .error cause => return .error ⟨.retrieve, retrieveMessage, cause⟩

def store (settings : Settings) : Session (Except (ServiceError Cause) Settings) := do
  Program.log .debug .settings "Updating settings"
  let answer ← ask (.store settings)
  match answer with
  | .ok settings => return .ok settings
  | .error cause => return .error ⟨.update, updateMessage, cause⟩

def load : Session (Except Problem SettingsView) := do
  match ← fetch with
  | .ok settings => return .ok (.ofSettings settings)
  | .error error => do
    ask (.notify (.failure "Failure" error.message error))
    return .error (.service error)

def applyUpdate (update : AppState.Update) : Session Unit := do
  Program.log .trace .state ("State update: " ++ update.describe)
  ask (.update update)

def applyUpdates : List AppState.Update → Session Unit
  | [] => return ()
  | update :: rest => do
    applyUpdate update
    applyUpdates rest

/-- Takes over what the server has stored. -/
def refresh (view : SettingsView) (stored : Settings) : Session Outcome := do
  ask (.notify (.success "Settings updated"))
  applyUpdates (AppState.updatesOf stored)
  match ← ask .flush with
  | .error problem => return (.error problem, view)
  | .ok () => do
    match ← load with
    | .error problem => return (.error problem, view)
    | .ok fresh => return (.ok (), fresh)

/-- Writes the settings of the view. -/
def write (view : SettingsView) : Session Outcome := do
  match ← store view.settings with
  | .error error => do
    ask (.notify (.failure "Failure" updateMessage error))
    return (.error (.service error), view)
  | .ok stored => refresh view stored

/-- Writes the settings with the form applied. -/
def save (view : SettingsView) : Session Outcome := do
  let edited := { view with settings := view.form.apply view.settings }
  ask (.progress true)
  let outcome ← write edited
  ask (.progress false)
  return outcome

def withLabels (view : SettingsView) (labels : List FilteredLabel) : SettingsView :=
  { view with settings := { view.settings with filteredLabels := labels } }

/-- Adds the label in the form. -/
def addLabel (view : SettingsView) : Session Outcome :=
  write (withLabels view (view.settings.filteredLabels ++ [view.form.filteredLabel]))

def removeLabel (view : SettingsView) (index : Nat) : Session Outcome :=
  if index < view.settings.filteredLabels.length then
    write (withLabels view (view.settings.filteredLabels.eraseIdx index))
  else return (.error (.noSuchLabel index), view)

end Editor

end ClusterDesk
