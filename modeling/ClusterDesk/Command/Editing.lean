import ClusterDesk.Command.Report
import ClusterDesk.Json.Printer

/-!
Commands on settings, as conversations with an editor. Every one of them starts by loading the
settings; a change is made in the view and then saved.
-/

namespace ClusterDesk.SettingsCommand

open Editor (Session)

/-- The settings over several lines, and a line when users are kept from editing containers. -/
def page (view : SettingsView) : String :=
  Json.pretty view.settings.write ++ "\n" ++
    if view.form.isContainerEditDisabled then
      "Container editing is restricted for regular users\n"
    else ""

/-- The text is empty when an operation on the view has succeeded. -/
def finish (outcome : Editor.Outcome) : CommandResult :=
  match outcome.1 with
  | .ok () => .ok ""
  | .error problem => .error (.problem problem)

def act (view : SettingsView) : SettingsCommand → Session CommandResult
  | .print => return .ok (page view)
  | .set toggles =>
    match toggles.apply view with
    | .error problem => return .error (.problem problem)
    | .ok edited => return finish (← Editor.save edited)
  | .addLabel name value => do
    let form := { view.form with labelName := name, labelValue := value }
    return finish (← Editor.addLabel { view with form })
  | .removeLabel index => return finish (← Editor.removeLabel view index)

def session (command : SettingsCommand) : Session CommandResult := do
  match ← Editor.load with
  | .error problem => return .error (.problem problem)
  | .ok view => act view command

end ClusterDesk.SettingsCommand
