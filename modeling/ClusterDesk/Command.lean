import ClusterDesk.Problem
import ClusterDesk.ResourceId
import ClusterDesk.Settings.Form
import ClusterDesk.Editor

/-!
What a user can ask for, and how it can fail. Nothing here is done yet: the commands on config maps
and namespaces become conversations with a backend, those on settings with an editor.
-/

namespace ClusterDesk

inductive ConfigMapCommand where
  /-- In one namespace, or in all. -/
  | list (scope : Option String)
  | get (scope name : String) (yaml : Bool)
  /-- Sets entries given as key and value around an equals sign. -/
  | set (scope name : String) (entries : List String) (owner : Option String)
  | unset (scope name : String) (keys : List String)
  | delete (scope name : String)
  deriving DecidableEq, Repr

inductive NamespaceCommand where
  | list
  | get (name : String) (yaml : Bool)
  | create (name : String)
  | delete (name : String)
  /-- Tells reserved names from others. -/
  | classify (names : List String)
  deriving DecidableEq, Repr

/-- The settings to be changed; an empty logo removes it. -/
structure Toggles where
  logo : Option String := none
  restrictBindMounts : Option Bool := none
  restrictPrivilegedMode : Option Bool := none
  restrictHostNamespace : Option Bool := none
  disableDeviceMapping : Option Bool := none
  disableStackManagement : Option Bool := none
  disableContainerCapabilities : Option Bool := none
  enableHostManagement : Option Bool := none
  enableVolumeBrowser : Option Bool := none
  enableEdgeCompute : Option Bool := none
  enableTelemetry : Option Bool := none
  checkinInterval : Option UInt32 := none
  deriving DecidableEq, Repr

namespace Toggles

def onForm (toggles : Toggles) (form : SettingsForm) : SettingsForm :=
  { form with
    customLogo := toggles.logo.elim form.customLogo (· ≠ "")
    restrictBindMounts := toggles.restrictBindMounts.getD form.restrictBindMounts
    restrictPrivilegedMode := toggles.restrictPrivilegedMode.getD form.restrictPrivilegedMode
    restrictHostNamespace := toggles.restrictHostNamespace.getD form.restrictHostNamespace
    disableDeviceMapping := toggles.disableDeviceMapping.getD form.disableDeviceMapping
    disableStackManagement := toggles.disableStackManagement.getD form.disableStackManagement
    disableContainerCapabilities :=
      toggles.disableContainerCapabilities.getD form.disableContainerCapabilities
    enableHostManagement := toggles.enableHostManagement.getD form.enableHostManagement
    enableVolumeBrowser := toggles.enableVolumeBrowser.getD form.enableVolumeBrowser
    enableEdgeCompute := toggles.enableEdgeCompute.getD form.enableEdgeCompute
    enableTelemetry := toggles.enableTelemetry.getD form.enableTelemetry }

def withInterval (toggles : Toggles) (settings : Settings) : Except Problem Settings :=
  match toggles.checkinInterval with
  | some seconds => settings.setCheckinInterval seconds
  | none => .ok settings

/-- An interval that is not offered leaves nothing changed. -/
def apply (toggles : Toggles) (view : SettingsView) : Except Problem SettingsView :=
  (toggles.withInterval view.settings).map fun settings =>
    { settings := { settings with logoUrl := toggles.logo.getD settings.logoUrl }
      form := toggles.onForm view.form }

end Toggles

inductive SettingsCommand where
  | print
  | set (toggles : Toggles)
  | addLabel (name value : String)
  | removeLabel (index : Nat)
  deriving DecidableEq, Repr

inductive Command where
  | configMap (command : ConfigMapCommand)
  | space (command : NamespaceCommand)
  | settings (command : SettingsCommand)
  deriving DecidableEq, Repr

/-- Why a command did not succeed. -/
inductive CommandError where
  | problem (problem : Problem)
  | noSettingsUrl
  | noCluster
  | absent (id : ResourceId)
  /-- A namespace of the system is not deleted. -/
  | reserved (name : String)
  deriving DecidableEq, Repr

namespace CommandError

def chain : CommandError → List String
  | .problem cause => cause.chain
  | .noSettingsUrl => ["settings url is not configured, use --settings-url"]
  | .noCluster => ["failed to connect to cluster"]
  | .absent id => ["config map " ++ id.display ++ " does not exist"]
  | .reserved name => ["refusing to delete system namespace " ++ name]

/-- Every line after the first is set in. -/
def indented (first others text : String) : String :=
  first ++ String.ofList (text.toList.flatMap fun c =>
    if c = '\n' then '\n' :: others.toList else [c])

/-- The failure and, set in below it, its causes; several ones are numbered. -/
def text (error : CommandError) : String :=
  match error.chain with
  | [] => "Error: "
  | [message] => "Error: " ++ message
  | [message, cause] =>
    "Error: " ++ message ++ "\n\nCaused by:\n" ++ indented "    " "    " cause
  | message :: causes =>
    let numbered := causes.zipIdx.map fun (cause, place) =>
      let digits := toString place
      let margin := String.ofList (List.replicate (5 - digits.length) ' ')
      "\n" ++ indented (margin ++ digits ++ ": ") "       " cause
    "Error: " ++ message ++ "\n\nCaused by:" ++ String.join numbered

end CommandError

end ClusterDesk
