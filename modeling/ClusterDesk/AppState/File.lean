import ClusterDesk.AppState
import ClusterDesk.Json.Parser
import ClusterDesk.Json.Printer

/-!
The application state as a file: one JSON object over several lines. A missing file stands for the
default state.
-/

namespace ClusterDesk.AppState

open Json

/-- Fields in the order of the object; from an array they are read by place, the last ones may be
absent. -/
def readItems (items : List Json) : Option AppState := do
  if 12 < items.length then none
  else
    let text := fun (place : Nat) => (items[place]?).elim (some "") text?
    let flag := fun (place : Nat) => (items[place]?).elim (some false) bool?
    return {
      logo := ← text 0
      snapshotInterval := ← text 1
      enableHostManagement := ← flag 2
      enableVolumeBrowser := ← flag 3
      allowHostNamespace := ← flag 4
      enableEdgeCompute := ← flag 5
      allowDeviceMapping := ← flag 6
      allowStackManagement := ← flag 7
      allowContainerCapabilities := ← flag 8
      allowPrivilegedMode := ← flag 9
      allowBindMounts := ← flag 10
      enableTelemetry := ← flag 11 }

/-- Absent members are defaults and unknown ones are left out; a repeated member is an error. -/
def readMembers (members : List (String × Json)) : Option AppState := do
  let text := fun (name : String) => once? name "" text? members
  let flag := fun (name : String) => once? name false bool? members
  return {
    logo := ← text "logo"
    snapshotInterval := ← text "snapshot_interval"
    enableHostManagement := ← flag "enable_host_management_features"
    enableVolumeBrowser := ← flag "enable_volume_browser_for_non_admin_users"
    allowHostNamespace := ← flag "allow_host_namespace_for_regular_users"
    enableEdgeCompute := ← flag "enable_edge_compute_features"
    allowDeviceMapping := ← flag "allow_device_mapping_for_regular_users"
    allowStackManagement := ← flag "allow_stack_management_for_regular_users"
    allowContainerCapabilities := ← flag "allow_container_capabilities_for_regular_users"
    allowPrivilegedMode := ← flag "allow_privileged_mode_for_regular_users"
    allowBindMounts := ← flag "allow_bind_mounts_for_regular_users"
    enableTelemetry := ← flag "enable_telemetry" }

def read : Json → Option AppState
  | .arr items => readItems items
  | .obj members => readMembers members
  | _ => none

def write (state : AppState) : Json :=
  .obj
    [("logo", .str state.logo),
      ("snapshot_interval", .str state.snapshotInterval),
      ("enable_host_management_features", .bool state.enableHostManagement),
      ("enable_volume_browser_for_non_admin_users", .bool state.enableVolumeBrowser),
      ("allow_host_namespace_for_regular_users", .bool state.allowHostNamespace),
      ("enable_edge_compute_features", .bool state.enableEdgeCompute),
      ("allow_device_mapping_for_regular_users", .bool state.allowDeviceMapping),
      ("allow_stack_management_for_regular_users", .bool state.allowStackManagement),
      ("allow_container_capabilities_for_regular_users", .bool state.allowContainerCapabilities),
      ("allow_privileged_mode_for_regular_users", .bool state.allowPrivilegedMode),
      ("allow_bind_mounts_for_regular_users", .bool state.allowBindMounts),
      ("enable_telemetry", .bool state.enableTelemetry)]

def fileText (state : AppState) : String := pretty state.write

/-- What a state file holds, from the outcome of reading it. -/
def ofFile (path : String) : Except Disk.Fault (List UInt8) → Except Problem AppState
  | .ok bytes =>
    match (Json.ofBytes? bytes).bind read with
    | some state => .ok state
    | none => .error (.state path)
  | .error .notFound => .ok {}
  | .error fault => .error (.disk path fault)

end ClusterDesk.AppState
