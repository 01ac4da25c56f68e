import ClusterDesk.Command.Outside
import ClusterDesk.Http.Script

/-!
An outside held in memory: a disk, replies laid down beforehand, and whether there is a cluster.
-/

namespace ClusterDesk.Outside

structure World where
  disk : Disk := {}
  script : Http.Script := {}
  connected : Bool := true
  deriving Inhabited

namespace World

def reply (request : Http.Request) (world : World) : Http.Reply × World :=
  let (reply, script) := Http.Script.answer request world.script
  (reply, { world with script })

def answer (question : Question) (world : World) : Answer question × World :=
  match question with
  | .readFile path => (world.disk.read path, world)
  | .writeFile path content =>
    match world.disk.write path content with
    | .ok disk => (.ok (), { world with disk })
    | .error fault => (.error fault, world)
  | .connect => (world.connected, world)
  | .cluster request => reply request world
  | .web _ request => reply request world

end World

/-- The request that is put by a question, if any. -/
def Question.request? : Question → Option Http.Request
  | cluster request | web _ request => some request
  | readFile _ | writeFile _ _ | connect => none

end ClusterDesk.Outside
