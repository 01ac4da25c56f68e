import ClusterDesk.Text.Blank
import ClusterDesk.Text.Split

/-!
Log records and the filter that decides which of them are shown. A filter is a list of
directives; the longest directive whose name starts the record's source decides.
-/

namespace ClusterDesk.Log

inductive Level where
  | error | warn | info | debug | trace
  deriving DecidableEq, Repr

def Level.name : Level → String
  | error => "ERROR"
  | warn => "WARN"
  | info => "INFO"
  | debug => "DEBUG"
  | trace => "TRACE"

/-- Verbosity: a filter of rank `n` lets through the levels of rank at most `n`. -/
def Level.rank : Level → Nat
  | error => 1
  | warn => 2
  | info => 3
  | debug => 4
  | trace => 5

/-- The part of the program a record comes from. -/
inductive Source where
  | service | backend | manifest | settings | state | notification | command
  deriving DecidableEq, Repr

/-- The name by which a filter addresses a source. -/
def Source.path : Source → String
  | service => "resource_service::service"
  | backend => "kubedeck::backend"
  | manifest => "kubedeck::configmap"
  | settings => "kubedeck::settings"
  | state => "kubedeck::state"
  | notification => "kubedeck::notify"
  | command => "kubedeck"

structure Record where
  level : Level
  source : Source
  text : String
  deriving DecidableEq, Repr

def Record.line (record : Record) : String := record.level.name ++ " " ++ record.text

/-- Lets through records of rank at most `rank` whose source starts with `name`. -/
structure Directive where
  name : Option String
  rank : Nat
  deriving DecidableEq, Repr

/-- Directives in the order in which they are tried. -/
structure Filter where
  directives : List Directive
  phrase : Option String
  deriving DecidableEq, Repr

def rankNamed (text : String) : Option Nat :=
  let lower := text.map Char.toLower
  if lower = "off" then some 0
  else if lower = "error" then some 1
  else if lower = "warn" then some 2
  else if lower = "info" then some 3
  else if lower = "debug" then some 4
  else if lower = "trace" then some 5
  else none

def trim (text : String) : String := String.ofList (Split.trim isBlank text.toList)

def Directive.parse? (text : String) : Option Directive :=
  match Split.texts '=' text with
  | [single] =>
    match rankNamed (trim single) with
    | some rank => some ⟨none, rank⟩
    | none => some ⟨some single, 5⟩
  | [name, level] =>
    if trim level = "" then some ⟨some name, 5⟩
    else (rankNamed (trim level)).map fun rank => ⟨some name, rank⟩
  | _ => none

def Directive.weight (directive : Directive) : Nat :=
  (directive.name.map String.utf8ByteSize).getD 0

/-- A directive replaces an earlier one of the same name. -/
def putDirective (directives : List Directive) (directive : Directive) : List Directive :=
  if directives.any (fun other => other.name = directive.name) then
    directives.map fun other => if other.name = directive.name then directive else other
  else directives ++ [directive]

/-- Directives separated by commas, then a phrase after a slash; a malformed directive is left
out, and no directive at all means errors only. -/
def Filter.parse (text : String) : Filter :=
  let build (names : String) (phrase : Option String) : Filter :=
    let read := ((Split.texts ',' names).map trim).filterMap fun item =>
      if item = "" then none else Directive.parse? item
    let kept := read.foldl putDirective []
    let directives := if kept.isEmpty then [⟨none, 1⟩] else kept
    ⟨(directives.mergeSort fun a b => decide (a.weight ≤ b.weight)).reverse, phrase⟩
  match Split.texts '/' text with
  | [names] => build names none
  | [names, phrase] => build names (some phrase)
  | _ => build "" none

def holds (phrase text : List Char) : Bool :=
  match text with
  | [] => phrase.isEmpty
  | _ :: rest => phrase.isPrefixOf text || holds phrase rest

def Filter.admits (filter : Filter) (record : Record) : Bool :=
  let deciding := filter.directives.find? fun directive =>
    match directive.name with
    | none => true
    | some name => name.toList.isPrefixOf record.source.path.toList
  match deciding with
  | none => false
  | some directive =>
    decide (record.level.rank ≤ directive.rank) &&
      match filter.phrase with
      | none => true
      | some phrase => holds phrase.toList record.text.toList

end ClusterDesk.Log
