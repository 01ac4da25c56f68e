import ClusterDesk.Command.Outside

/-!
The program that is run from a shell: it reads its arguments, asks files for their content, and
writes results and log records. It has no way to reach a network, so that every request is told to
be unanswered.
-/

open ClusterDesk

namespace ClusterDesk.Shell

def faultOf (error : IO.Error) : Disk.Fault :=
  match error with
  | .noFileOrDirectory _ _ _ => .notFound
  | .inappropriateType _ 20 _ => .notFolder
  | .inappropriateType _ 21 _ => .isFolder
  | other => .other (toString other)

def read (path : String) : IO (Except Disk.Fault (List UInt8)) := do
  try
    let content ← IO.FS.readBinFile path
    return .ok content.data.toList
  catch error => return .error (faultOf error)

def write (path : String) (content : List UInt8) : IO (Except Disk.Fault Unit) := do
  try
    IO.FS.writeBinFile path ⟨content.toArray⟩
    return .ok ()
  catch error => return .error (faultOf error)

def answer : (question : Outside.Question) → IO (Outside.Answer question)
  | .readFile path => read path
  | .writeFile path content => write path content
  | .connect => return false
  | .cluster _ | .web _ _ =>
    return .broken
      ["client error (Connect)", "tcp connect error", "Network is unreachable (os error 101)"]

def log (filter : Log.Filter) (record : Log.Record) : IO Unit := do
  if filter.admits record then
    IO.eprintln ("[" ++ record.level.name ++ " " ++ record.source.path ++ "] " ++ record.text)

def surroundings : IO (List (String × String)) := do
  let names := ["KUBEDECK_CONFIG", "KUBEDECK_SETTINGS_URL", "KUBEDECK_TOKEN", "RUST_LOG"]
  names.filterMapM fun name => do return (← IO.getEnv name).map (name, ·)

def stopped (stop : CommandLine.Stop) : IO UInt32 := do
  if stop = .wrong then
    IO.eprintln ("error: invalid arguments\n\n" ++ Invocation.usage)
    return 2
  else
    IO.print (Invocation.output stop)
    return 0

def carryOut (environment : String → Option String) (invocation : Invocation) : IO UInt32 := do
  match ← invocation.run.perform answer (log (invocation.filter environment)) with
  | .ok output =>
    IO.print output
    return 0
  | .error error =>
    IO.eprintln error.text
    return 1

end ClusterDesk.Shell

def main (arguments : List String) : IO UInt32 := do
  let given ← Shell.surroundings
  let environment := fun (name : String) => Dict.lookup name given
  match Invocation.read environment arguments with
  | .error stop => Shell.stopped stop
  | .ok invocation => Shell.carryOut environment invocation
