import ClusterDesk.Command.Report
import ClusterDesk.Namespace

/-!
Commands on namespaces, as conversations with a backend. Main rule: a namespace that is read as
reserved is not deleted.
-/

namespace ClusterDesk.Namespaces

open Command

abbrev Session : Type := Service.Session (Manifest LifeCycle) String Cause CommandResult

def row (space : Namespace) : String :=
  column 40 space.name ++ " " ++ column 12 (space.status.getD "-") ++ " " ++
    (if space.isSystem then "system" else "user") ++ "\n"

def classification (reserved : Reserved) (name : String) : String :=
  column 40 name ++ " " ++ (reserved.classify name).name ++ "\n"

def list (reserved : Reserved) : Session := do
  report (← Service.list (Namespace.converter reserved) none) fun spaces =>
    return .ok (String.join (spaces.map row))

def get (reserved : Reserved) (name : String) (yaml : Bool) : Session := do
  report (← Service.get (Namespace.converter reserved) (.cluster name)) fun space =>
    return .ok (if yaml then space.yaml else row space)

def create (reserved : Reserved) (name : String) : Session := do
  let space := Namespace.ofId reserved (.cluster name)
  report (← Service.create (Namespace.converter reserved) space) fun created => do
    notify (.success ("Namespace " ++ created.name ++ " created"))
    return .ok ""

def delete (reserved : Reserved) (name : String) : Session := do
  report (← Service.get (Namespace.converter reserved) (.cluster name)) fun space => do
    if space.isSystem then return .error (.reserved space.name)
    else
      report (← Service.delete (Namespace.converter reserved) space) fun _ => do
        notify (.success ("Namespace " ++ space.name ++ " deleted"))
        return .ok ""

def session (reserved : Reserved) : NamespaceCommand → Session
  | .list => list reserved
  | .get name yaml => get reserved name yaml
  | .create name => create reserved name
  | .delete name => delete reserved name
  | .classify names => return .ok (String.join (names.map (classification reserved)))

end ClusterDesk.Namespaces
