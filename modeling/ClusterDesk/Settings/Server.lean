import ClusterDesk.Editor

/-!
A settings server held in memory, with a record of everything written to it.
-/

namespace ClusterDesk

structure SettingsServer where
  stored : Settings := {}
  writes : List Settings := []
  /-- The cause with which reading fails. -/
  refusesFetch : Option Cause := none
  /-- The cause with which writing fails. -/
  refusesStore : Option Cause := none
  deriving Inhabited

namespace SettingsServer

def fetch (server : SettingsServer) : Except Cause Settings :=
  match server.refusesFetch with
  | some cause => .error cause
  | none => .ok server.stored

/-- Stores the settings as `kept`, which for a faithful server are those it is sent. -/
def store (server : SettingsServer) (settings kept : Settings) :
    Except Cause Settings × SettingsServer :=
  match server.refusesStore with
  | some cause => (.error cause, server)
  | none => (.ok kept, { server with stored := kept, writes := server.writes ++ [settings] })

end SettingsServer

end ClusterDesk
