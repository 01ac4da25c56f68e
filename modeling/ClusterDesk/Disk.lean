import ClusterDesk.Text.Split
import ClusterDesk.Text.Utf8

/-!
Files in folders, by paths of names between slashes. Reading answers what was written last; a
path that leads nowhere, through a file or to a folder is refused.
-/

namespace ClusterDesk

/-- Why a file could not be read or written. -/
inductive Disk.Fault where
  | notFound
  | notFolder
  | isFolder
  | nameTooLong
  /-- The path contains a zero byte. -/
  | badPath
  /-- The file holds no text. -/
  | notText
  | other (text : String)
  deriving DecidableEq, Repr

def Disk.Fault.message : Disk.Fault → String
  | notFound => "No such file or directory (os error 2)"
  | notFolder => "Not a directory (os error 20)"
  | isFolder => "Is a directory (os error 21)"
  | nameTooLong => "File name too long (os error 36)"
  | badPath => "file name contained an unexpected NUL byte"
  | notText => "stream did not contain valid UTF-8"
  | other text => text

/-- Files and folders by the names that lead to them from the root. -/
structure Disk where
  folders : List (List String) := []
  files : List (List String × List UInt8) := []
  deriving Inhabited

namespace Disk

def isFolder (disk : Disk) (place : List String) : Bool :=
  place.isEmpty || disk.folders.contains place

def content? (disk : Disk) (place : List String) : Option (List UInt8) :=
  (disk.files.find? (·.1 = place)).map (·.2)

/-- The folder reached by one more name. -/
def step (disk : Disk) (place : List String) (name : String) : Except Fault (List String) :=
  if name = "" ∨ name = "." then .ok place
  else if name = ".." then .ok place.dropLast
  else if 255 < name.utf8ByteSize then .error .nameTooLong
  else if disk.isFolder (place ++ [name]) then .ok (place ++ [name])
  else if (disk.content? (place ++ [name])).isSome then .error .notFolder
  else .error .notFound

/-- The folder that a path leads to, and the name in it; no name when the path can only be that of
a folder. A file that is to be made cannot be named like a folder. -/
def locate (disk : Disk) (making : Bool) (path : String) :
    Except Fault (List String × Option String) := do
  if path.toList.contains '\x00' then throw .badPath
  if path = "" then throw .notFound
  if 4096 ≤ path.utf8ByteSize then throw .nameTooLong
  let names := Split.texts '/' path
  let last := names.getLast?.getD ""
  let shown := if making && last = "" then (names.filter (· ≠ "")).dropLast else names.dropLast
  let place ← shown.foldlM disk.step []
  if last = "" ∨ last = "." ∨ last = ".." then return (place, none)
  if 255 < last.utf8ByteSize then throw .nameTooLong
  return (place, some last)

def read (disk : Disk) (path : String) : Except Fault (List UInt8) := do
  match ← disk.locate false path with
  | (_, none) => throw .isFolder
  | (place, some name) =>
    if disk.isFolder (place ++ [name]) then throw .isFolder
    match disk.content? (place ++ [name]) with
    | some content => return content
    | none => throw .notFound

def put (disk : Disk) (place : List String) (content : List UInt8) : Disk :=
  { disk with files := (place, content) :: disk.files.filter (·.1 ≠ place) }

/-- Creates the file or replaces all that it held. -/
def write (disk : Disk) (path : String) (content : List UInt8) : Except Fault Disk := do
  match ← disk.locate true path with
  | (_, none) => throw .isFolder
  | (place, some name) =>
    if disk.isFolder (place ++ [name]) then throw .isFolder
    return disk.put (place ++ [name]) content

theorem content?_put (disk : Disk) (place : List String) (content : List UInt8) :
    (disk.put place content).content? place = some content := by
  simp [put, content?]

end Disk

end ClusterDesk
