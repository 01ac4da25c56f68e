import ClusterDesk.Namespace
import ClusterDesk.Problem
import ClusterDesk.Url.Parser
import ClusterDesk.Yaml.Node

/-!
What the program is set up with: values from a file, and values that take precedence over them.
Reserved names are collected from everywhere, each once.
-/

namespace ClusterDesk

/-- The values of a configuration file. -/
structure FileConfig where
  systemNamespaces : List String := []
  settingsUrl : Option String := none
  stateFile : Option String := none
  deriving DecidableEq, Repr, Inhabited

namespace FileConfig

open Yaml

/-- Any scalar is a text. -/
def text? : Node → Option String
  | .scalar _ _ text => some text
  | _ => none

/-- A plain scalar that means nothing is no value; the tag for it allows no other text. -/
def optional? : Node → Option (Option String)
  | .scalar true none text => some (if text = "~" ∨ text = "null" then none else some text)
  | .scalar true (some tag) text =>
    if tag = ⟨"!!", "null"⟩ then if text = "~" ∨ text = "null" then some none else none
    else some (some text)
  | .scalar false _ text => some (some text)
  | _ => none

def texts? : Node → Option (List String)
  | .sequence items => items.mapM text?
  | _ => none

/-- The value of an entry that may be there once. -/
def once? {α : Type} (name : String) (default : α) (read : Node → Option α)
    (entries : List (String × Node)) : Option α :=
  match entries.filter (·.1 = name) with
  | [] => some default
  | [entry] => read entry.2
  | _ => none

/-- A mapping from texts, of which others than those of the fields do not count, or a sequence of
the values of the fields. -/
def ofNode? : Node → Option FileConfig
  | .mapping entries => do
    let named ← entries.mapM fun (key, value) => (text? key).map (·, value)
    return {
      systemNamespaces := ← once? "system_namespaces" [] texts? named
      settingsUrl := ← once? "settings_url" none optional? named
      stateFile := ← once? "state_file" none optional? named }
  | .sequence items =>
    if 3 < items.length then none
    else do
      return {
        systemNamespaces := ← (items[0]?).elim (some []) texts?
        settingsUrl := ← (items[1]?).elim (some none) optional?
        stateFile := ← (items[2]?).elim (some none) optional? }
  | _ => none

def parse (path text : String) : Except Problem FileConfig :=
  match (Node.ofText? text).bind ofNode? with
  | some config => .ok config
  | none => .error (.config path)

/-- A configuration, from the outcome of reading its file. -/
def ofFile (path : String) : Except Disk.Fault (List UInt8) → Except Problem FileConfig
  | .error fault => .error (.disk path fault)
  | .ok bytes =>
    match Utf8.decode? bytes with
    | some text => parse path text
    | none => .error (.disk path .notText)

end FileConfig

/-- Values that take precedence over those of a file. -/
structure Overrides where
  systemNamespaces : List String := []
  settingsUrl : Option String := none
  token : Option String := none
  stateFile : Option String := none
  deriving DecidableEq, Repr, Inhabited

structure Config where
  systemNamespaces : List String
  settingsUrl : Option Url
  token : Option String
  stateFile : Option String
  deriving DecidableEq, Repr

namespace Config

/-- Adds the names that are not there yet. -/
def merge (names added : List String) : List String :=
  added.foldl (fun names name => if names.contains name then names else names ++ [name]) names

def resolve (file : FileConfig) (overrides : Overrides) : Except Problem Config := do
  let url ← match overrides.settingsUrl.or file.settingsUrl with
    | none => pure none
    | some text =>
      match Url.parse text with
      | .ok url => pure (some url)
      | .error fault => throw (.url fault)
  return {
    systemNamespaces :=
      merge Reserved.usual (file.systemNamespaces ++ overrides.systemNamespaces)
    settingsUrl := url
    token := overrides.token
    stateFile := overrides.stateFile.or file.stateFile }

def reserved (config : Config) : Reserved := ⟨config.systemNamespaces⟩

end Config

end ClusterDesk
