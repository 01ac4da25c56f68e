import ClusterDesk.Command
import ClusterDesk.Service

/-!
What commands have in common: they end with a text to be printed or with a failure, and a failed
call is told in the log.
-/

namespace ClusterDesk

/-- How a command ended: the text to be printed, or why it failed. -/
abbrev CommandResult : Type := Except CommandError String

namespace Command

/-- Text in a column of a given width. -/
def column (width : Nat) (text : String) : String :=
  text ++ String.ofList (List.replicate (width - text.length) ' ')

variable {Q : Type} {A : Q → Type}

def notify (notification : Notification) : Program Q A Unit := .note notification.record (.done ())

/-- Goes on with the value; a failure is told in the log and ends the command. -/
def report {α : Type} (result : Service.Result Cause α) (next : α → Program Q A CommandResult) :
    Program Q A CommandResult :=
  match result with
  | .ok value => next value
  | .error error => do
    notify (.failure "Failure" error.message error)
    return .error (.problem (.service error))

end Command

end ClusterDesk
