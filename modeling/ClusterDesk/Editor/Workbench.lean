import ClusterDesk.Editor
import ClusterDesk.Settings.Server
import ClusterDesk.StateStore

/-!
What an editor works with, held in memory: a settings server, the application state with the disk
its file is on, the flag that tells of an action in progress, and the notifications so far.
-/

namespace ClusterDesk.Editor

structure Workbench where
  server : SettingsServer := {}
  /-- What the server makes of the settings it is sent. -/
  normalize : Settings → Settings := id
  store : StateStore := {}
  disk : Disk := {}
  inProgress : Bool := false
  notifications : List Notification := []

namespace Workbench

def answer (question : Question) (bench : Workbench) : Answer question × Workbench :=
  match question with
  | .fetch => (bench.server.fetch, bench)
  | .store settings =>
    let (reply, server) := bench.server.store settings (bench.normalize settings)
    (reply, { bench with server })
  | .update update => ((), { bench with store := bench.store.apply update })
  | .flush =>
    match bench.store.flush bench.disk with
    | .ok disk => (.ok (), { bench with disk })
    | .error problem => (.error problem, bench)
  | .progress flag => ((), { bench with inProgress := flag })
  | .notify notification =>
    ((), { bench with notifications := bench.notifications ++ [notification] })

end Workbench

/-- The session with every notification logged as well. -/
def logged {α : Type} (session : Session α) : Session α :=
  (session.translate (fun question (_ : Unit) =>
    match question with
    | .notify notification =>
      .note notification.record (.ask (.notify notification) fun _ => .done ((), ()))
    | other => .ask other fun answer => .done (answer, ())) ()).bind fun result => .done result.1

end ClusterDesk.Editor
