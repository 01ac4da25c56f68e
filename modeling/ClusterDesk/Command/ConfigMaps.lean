import ClusterDesk.Command.Report
import ClusterDesk.ConfigMap

/-!
Commands on config maps, as conversations with a backend. A command reads what it needs, makes at
most one call that changes anything, and ends with the text to be printed. Main rule: nothing is
written when an entry is malformed.
-/

namespace ClusterDesk.ConfigMaps

open Command

abbrev Session : Type := Service.Session (Manifest Entries) String Cause CommandResult

def row (map : ConfigMap) : String :=
  column 20 map.scope ++ " " ++ column 40 map.name ++ " " ++ toString map.entryCount ++ "\n"

def details (map : ConfigMap) : String :=
  "Name:      " ++ map.name ++ "\n" ++ "Namespace: " ++ map.scope ++ "\n" ++
    map.owner.elim "" (fun owner => "Owner:     " ++ owner ++ "\n") ++
    map.creationDate.elim "" (fun date => "Created:   " ++ date.full ++ "\n") ++
    String.join (map.data.entries.map fun (key, value) => "  " ++ key ++ "=" ++ value ++ "\n") ++
    String.join (map.binaryData.entries.map fun (key, bytes) =>
      "  " ++ key ++ "=<" ++ toString bytes.length ++ " bytes>\n")

/-- Key and value around the first equals sign; the key is not empty. -/
def readEntry (entry : String) : Except Problem (String × String) :=
  let text := entry.toList
  let key := text.takeWhile (· ≠ '=')
  match key, text.dropWhile (· ≠ '=') with
  | _ :: _, _ :: value => .ok (String.ofList key, String.ofList value)
  | _, _ => .error (.invalidEntry entry)

def setEntries (map : ConfigMap) (entries : List (String × String)) : ConfigMap :=
  entries.foldl (fun map entry => map.setEntry entry.1 entry.2) map

/-- Removes the keys one after another, with a warning for each one that is not there. -/
def removeEntries {Q : Type} {A : Q → Type} : List String → ConfigMap → Program Q A ConfigMap
  | [], map => return map
  | key :: rest, map => do
    let dropped := map.dropEntry key
    if !dropped.1 then
      Program.log .warn .command ("No entry " ++ key ++ " in " ++ map.identity.display)
    removeEntries rest dropped.2

def list (scope : Option String) : Session := do
  report (← Service.list ConfigMap.converter scope) fun maps =>
    return .ok (String.join (maps.map row))

def get (id : ResourceId) (yaml : Bool) : Session := do
  report (← Service.get ConfigMap.converter id) fun map =>
    return .ok (if yaml then map.yaml else details map)

/-- Saves a draft and tells what has become of it. -/
def save (draft : Draft ConfigMap) (done : String) : Session := do
  report (← Service.update ConfigMap.converter draft) fun saved => do
    notify (.success ("Config map " ++ saved.identity.display ++ " " ++ done))
    return .ok ""

def set (id : ResourceId) (entries : List String) (owner : Option String) : Session := do
  report (← Service.get ConfigMap.converter id) fun map =>
    match entries.mapM readEntry with
    | .error problem => return .error (.problem problem)
    | .ok pairs =>
      let edited := setEntries map pairs
      let draft := Service.draft ConfigMap.converter { edited with owner := owner.or edited.owner }
      save draft (if draft.isNew then "created" else "updated")

def unset (id : ResourceId) (keys : List String) : Session := do
  report (← Service.get ConfigMap.converter id) fun map =>
    match Service.draft ConfigMap.converter map with
    | .new map => return .error (.absent map.identity)
    | .existing map => do save (.existing (← removeEntries keys map)) "updated"

def delete (id : ResourceId) : Session := do
  report (← Service.get ConfigMap.converter id) fun map => do
    report (← Service.delete ConfigMap.converter map) fun _ => do
      notify (.success ("Config map " ++ map.identity.display ++ " deleted"))
      return .ok ""

def session : ConfigMapCommand → Session
  | .list scope => list scope
  | .get scope name yaml => get (.namespaced scope name) yaml
  | .set scope name entries owner => set (.namespaced scope name) entries owner
  | .unset scope name keys => unset (.namespaced scope name) keys
  | .delete scope name => delete (.namespaced scope name)

end ClusterDesk.ConfigMaps
