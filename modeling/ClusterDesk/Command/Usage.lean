import ClusterDesk.Command
import ClusterDesk.CommandLine

/-!
How commands are written: the levels of the command line, and what their words stand for. Some
options can also be given in the environment, which the command line overrides.
-/

namespace ClusterDesk

open CommandLine

/-- A command with the options that hold for all commands. -/
structure Invocation where
  config : Option String := none
  systemNamespaces : List String := []
  settingsUrl : Option String := none
  token : Option String := none
  stateFile : Option String := none
  /-- How much is to be logged. -/
  verbosity : Nat := 0
  command : Command
  deriving DecidableEq, Repr

namespace Invocation

def anyText (_ : String) : Bool := true

def isPath (text : String) : Bool := text ≠ ""

def isFlag (text : String) : Bool := text = "true" ∨ text = "false"

def seconds? (text : String) : Option UInt32 := (signed? (Nat.pow 2 32) text).map UInt32.ofNat

def rootLevel : Level where
  choices :=
    [⟨"config", none, .value isPath⟩, ⟨"system-namespace", none, .values anyText⟩,
      ⟨"settings-url", none, .value anyText⟩, ⟨"token", none, .value anyText⟩,
      ⟨"state-file", none, .value isPath⟩, ⟨"verbose", some 'v', .counter⟩,
      ⟨"version", some 'V', .version⟩]
  commands := ["configmap", "namespace", "settings", "help"]

def inNamespace : Choice := ⟨"namespace", some 'n', .value anyText⟩

def asYaml : Choice := ⟨"yaml", none, .switch⟩

/-- The options of a change of settings that are either on or off. -/
def flagNames : List String :=
  ["restrict-bind-mounts", "restrict-privileged-mode", "restrict-host-namespace",
    "disable-device-mapping", "disable-stack-management", "disable-container-capabilities",
    "enable-host-management-features", "enable-volume-browser", "enable-edge-compute-features",
    "enable-telemetry"]

/-- The level of a command, which is given by the words that lead to it. -/
def level? : List String → Option Level
  | [] => some rootLevel
  | ["configmap"] => some { commands := ["list", "get", "set", "unset", "delete", "help"] }
  | ["configmap", "list"] => some { choices := [inNamespace] }
  | ["configmap", "get"] => some { choices := [inNamespace, asYaml], places := 1 }
  | ["configmap", "set"] =>
    some {
      choices := [inNamespace, ⟨"owner", none, .value anyText⟩]
      places := 1
      repeats := true }
  | ["configmap", "unset"] => some { choices := [inNamespace], places := 1, repeats := true }
  | ["configmap", "delete"] => some { choices := [inNamespace], places := 1 }
  | ["namespace"] => some { commands := ["list", "get", "create", "delete", "classify", "help"] }
  | ["namespace", "list"] => some {}
  | ["namespace", "get"] => some { choices := [asYaml], places := 1 }
  | ["namespace", "create"] => some { places := 1 }
  | ["namespace", "delete"] => some { places := 1 }
  | ["namespace", "classify"] => some { repeats := true }
  | ["settings"] => some { commands := ["show", "set", "label-add", "label-remove", "help"] }
  | ["settings", "show"] => some {}
  | ["settings", "set"] =>
    some {
      choices :=
        ⟨"logo", none, .value anyText⟩ ::
          ⟨"edge-agent-checkin-interval", none, .value fun text => (seconds? text).isSome⟩ ::
          flagNames.map fun name => ⟨name, none, .value isFlag⟩ }
  | ["settings", "label-add"] => some { places := 2 }
  | ["settings", "label-remove"] => some { places := 1 }
  | _ => none

def flag? (words : Words) (name : String) : Option Bool := (words.value? name).map (· = "true")

def toggles (words : Words) : Toggles where
  logo := words.value? "logo"
  restrictBindMounts := flag? words "restrict-bind-mounts"
  restrictPrivilegedMode := flag? words "restrict-privileged-mode"
  restrictHostNamespace := flag? words "restrict-host-namespace"
  disableDeviceMapping := flag? words "disable-device-mapping"
  disableStackManagement := flag? words "disable-stack-management"
  disableContainerCapabilities := flag? words "disable-container-capabilities"
  enableHostManagement := flag? words "enable-host-management-features"
  enableVolumeBrowser := flag? words "enable-volume-browser"
  enableEdgeCompute := flag? words "enable-edge-compute-features"
  enableTelemetry := flag? words "enable-telemetry"
  checkinInterval := (words.value? "edge-agent-checkin-interval").bind seconds?

def configMapCommand? (name : String) (words : Words) : Option ConfigMapCommand :=
  let scope := words.value? "namespace"
  match name, words.places with
  | "list", [] => some (.list scope)
  | "get", [name] => scope.map (.get · name (words.has "yaml"))
  | "set", name :: entries => scope.map (.set · name entries (words.value? "owner"))
  | "unset", name :: keys => scope.map (.unset · name keys)
  | "delete", [name] => scope.map (.delete · name)
  | _, _ => none

def namespaceCommand? (name : String) (words : Words) : Option NamespaceCommand :=
  match name, words.places with
  | "list", [] => some .list
  | "get", [name] => some (.get name (words.has "yaml"))
  | "create", [name] => some (.create name)
  | "delete", [name] => some (.delete name)
  | "classify", names => some (.classify names)
  | _, _ => none

def settingsCommand? (name : String) (words : Words) : Option SettingsCommand :=
  match name, words.places with
  | "show", [] => some .print
  | "set", [] => some (.set (toggles words))
  | "label-add", [name, value] => some (.addLabel name value)
  | "label-remove", [index] => (natural? (Nat.pow 2 64) index).map .removeLabel
  | _, _ => none

def command? (group name : String) (words : Words) : Option Command :=
  match group with
  | "configmap" => (configMapCommand? name words).map .configMap
  | "namespace" => (namespaceCommand? name words).map .space
  | "settings" => (settingsCommand? name words).map .settings
  | _ => none

def orWrong {α : Type} : Option α → Except Stop α
  | some value => .ok value
  | none => .error .wrong

/-- Help is given on the commands that the words lead to. -/
def helpOn (path words : List String) : Stop :=
  if (level? (path ++ words)).isSome then .help else .wrong

def readGroup (group : String) (line : List String) : Except Stop Command := do
  let (_, next) ← (← orWrong (level? [group])).read line
  let (name, rest) ← orWrong next
  if name = "help" then throw (helpOn [group] rest)
  let (words, _) ← (← orWrong (level? [group, name])).read rest
  orWrong (command? group name words)

/-- The value of an option, or else that of a value in the environment. -/
def valueOr (environment : String → Option String) (words : Words) (name key : String)
    (accepts : String → Bool) : Except Stop (Option String) :=
  match words.value? name, environment key with
  | some value, _ => .ok (some value)
  | none, none => .ok none
  | none, some value => if accepts value then .ok (some value) else .error .wrong

def read (environment : String → Option String) (line : List String) : Except Stop Invocation := do
  let (words, next) ← rootLevel.read line
  let (group, rest) ← orWrong next
  if group = "help" then throw (helpOn [] rest)
  let command ← readGroup group rest
  return {
    config := ← valueOr environment words "config" "KUBEDECK_CONFIG" isPath
    systemNamespaces := words.values "system-namespace"
    settingsUrl := ← valueOr environment words "settings-url" "KUBEDECK_SETTINGS_URL" anyText
    token := ← valueOr environment words "token" "KUBEDECK_TOKEN" anyText
    stateFile := words.value? "state-file"
    verbosity := (words.values "verbose").length
    command }

def version : String := "kubedeck 0.1.0"

def usage : String :=
  "Manage config maps, namespaces and application settings\n\n" ++
    "Usage: kubedeck [OPTIONS] <configmap|namespace|settings> <COMMAND>"

/-- What is printed instead of carrying out a command. -/
def output : Stop → String
  | .help => usage ++ "\n"
  | .version => version ++ "\n"
  | .wrong => ""

/-- The records that are shown: those that the environment asks for, or else by verbosity. -/
def filter (environment : String → Option String) (invocation : Invocation) : Log.Filter :=
  Log.Filter.parse ((environment "RUST_LOG").getD (match invocation.verbosity with
    | 0 => "info"
    | 1 => "debug"
    | _ => "trace"))

end Invocation

end ClusterDesk
