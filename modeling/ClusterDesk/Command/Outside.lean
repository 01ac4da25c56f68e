import ClusterDesk.Command.ConfigMaps
import ClusterDesk.Command.Editing
import ClusterDesk.Command.Namespaces
import ClusterDesk.Command.Usage
import ClusterDesk.Config
import ClusterDesk.Rest
import ClusterDesk.Settings.Remote
import ClusterDesk.StateStore

/-!
Commands as a whole: from the configuration to the text to be printed, with everything that has to
be asked of the outside, that is, of files, of the cluster and of the settings server.
-/

namespace ClusterDesk

namespace Outside

inductive Question where
  | readFile (path : String)
  /-- Create a file, or replace all that it holds. -/
  | writeFile (path : String) (content : List UInt8)
  /-- Whether there is a cluster to talk to. -/
  | connect
  | cluster (request : Http.Request)
  /-- A request to the server of an address. -/
  | web (server : Url) (request : Http.Request)

abbrev Answer : Question → Type
  | .readFile _ => Except Disk.Fault (List UInt8)
  | .writeFile _ _ => Except Disk.Fault Unit
  | .connect => Bool
  | .cluster _ => Http.Reply
  | .web _ _ => Http.Reply

end Outside

/-- Programs that ask the outside. -/
abbrev Errand (α : Type) : Type := Program Outside.Question Outside.Answer α

namespace Outside

def ask (question : Question) : Errand (Answer question) := Program.query question

def toCluster {α : Type} (exchange : Http.Exchange α) : Errand α :=
  exchange.relay Question.cluster fun _ reply => Http.Reply.received reply

def toWeb {α : Type} (server : Url) (exchange : Http.Exchange α) : Errand α :=
  exchange.relay (Question.web server) fun _ reply => reply

/-- Writes the application state down, if it has a file. -/
def flush (store : StateStore) : Errand (Except Problem Unit) := do
  match store.path with
  | none => return .ok ()
  | some path =>
    match ← ask (.writeFile path (Utf8.encode store.state.fileText)) with
    | .ok () => return .ok ()
    | .error fault => return .error (.disk path fault)

/-- Answers an editor by the settings server, with the application state at hand. -/
def serveEditor (remote : SettingsRemote) (question : Editor.Question) (store : StateStore) :
    Errand (Editor.Answer question × StateStore) :=
  match question with
  | .fetch => do return (← toWeb remote.endpoint (remote.exchange none), store)
  | .store settings => do
    return (← toWeb remote.endpoint (remote.exchange (some settings)), store)
  | .update update => return ((), store.apply update)
  | .flush => do return (← flush store, store)
  | .progress _ => return ((), store)
  | .notify notification => .note notification.record (.done ((), store))

end Outside

namespace Command

open Outside

def onCluster {Body : Type} [Kind Body]
    (session : Service.Session (Manifest Body) String Cause CommandResult) :
    Errand CommandResult := do
  if ← ask .connect then toCluster (Rest.serve session) else return .error .noCluster

/-- Telling reserved names from others takes no cluster. -/
def onNamespaces (reserved : Reserved) : NamespaceCommand → Errand CommandResult
  | .classify names =>
    return .ok (String.join (names.map (Namespaces.classification reserved)))
  | command => onCluster (Namespaces.session reserved command)

def openState : Option String → Errand (Except Problem StateStore)
  | none => return .ok {}
  | some path => do
    return (AppState.ofFile path (← ask (.readFile path))).map fun state => ⟨some path, state⟩

def onSettings (config : Config) (command : SettingsCommand) : Errand CommandResult := do
  match config.settingsUrl with
  | none => return .error .noSettingsUrl
  | some base =>
    match ← openState config.stateFile with
    | .error problem => return .error (.problem problem)
    | .ok store =>
      match SettingsRemote.ofBase base config.token with
      | .error fault => return .error (.problem (.url fault))
      | .ok remote => return (← command.session.translate (serveEditor remote) store).1

def run (config : Config) : Command → Errand CommandResult
  | .configMap command => onCluster (ConfigMaps.session command)
  | .space command => onNamespaces config.reserved command
  | .settings command => onSettings config command

end Command

namespace Invocation

open Outside

def overrides (invocation : Invocation) : Overrides where
  systemNamespaces := invocation.systemNamespaces
  settingsUrl := invocation.settingsUrl
  token := invocation.token
  stateFile := invocation.stateFile

def fileConfig (invocation : Invocation) : Errand (Except Problem FileConfig) := do
  match invocation.config with
  | none => return .ok {}
  | some path => return FileConfig.ofFile path (← ask (.readFile path))

def run (invocation : Invocation) : Errand CommandResult := do
  match (← invocation.fileConfig).bind (Config.resolve · invocation.overrides) with
  | .error problem => return .error (.problem problem)
  | .ok config => do
    Program.log .debug .command
      ("System namespaces: " ++ Quoted.quoteList config.systemNamespaces)
    invocation.command.run config

end Invocation

end ClusterDesk
