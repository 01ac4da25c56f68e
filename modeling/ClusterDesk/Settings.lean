import ClusterDesk.Json.Field
import ClusterDesk.Problem

/-!
The settings of an application, and their JSON object. Members with names of their own are read
into fields; all others are kept as they are and written back after the fields.
-/

namespace ClusterDesk

/-- A label that hides the containers which carry it. -/
structure FilteredLabel where
  name : String
  value : String
  deriving DecidableEq, Repr, Inhabited

structure Settings where
  logoUrl : String := ""
  filteredLabels : List FilteredLabel := []
  snapshotInterval : String := ""
  /-- In seconds. -/
  checkinInterval : UInt32 := 0
  allowBindMounts : Bool := false
  allowPrivilegedMode : Bool := false
  allowVolumeBrowser : Bool := false
  enableHostManagement : Bool := false
  enableEdgeCompute : Bool := false
  allowHostNamespace : Bool := false
  allowDeviceMapping : Bool := false
  allowStackManagement : Bool := false
  allowContainerCapabilities : Bool := false
  enableTelemetry : Bool := false
  /-- Members without a field. -/
  extra : Dict Json := Dict.empty
  deriving DecidableEq, Inhabited

namespace Settings

open Json

/-- The members that have fields, in the order in which they are written. -/
def names : List String :=
  ["LogoURL", "BlackListedLabels", "SnapshotInterval", "EdgeAgentCheckinInterval",
    "AllowBindMountsForRegularUsers", "AllowPrivilegedModeForRegularUsers",
    "AllowVolumeBrowserForRegularUsers", "EnableHostManagementFeatures",
    "EnableEdgeComputeFeatures", "AllowHostNamespaceForRegularUsers",
    "AllowDeviceMappingForRegularUsers", "AllowStackManagementForRegularUsers",
    "AllowContainerCapabilitiesForRegularUsers", "EnableTelemetry"]

/-- A label is an object with both members, or an array of both. -/
def readLabel : Json → Option FilteredLabel
  | .arr [name, value] => return ⟨← text? name, ← text? value⟩
  | .obj members => return ⟨← required? "name" text? members, ← required? "value" text? members⟩
  | _ => none

def writeLabel (label : FilteredLabel) : Json :=
  .obj [("name", .str label.name), ("value", .str label.value)]

def seconds? (json : Json) : Option UInt32 := (natBelow? (Nat.pow 2 32) json).map UInt32.ofNat

/-- Every member without a field, of equal names the last. -/
def readExtra (members : List (String × Json)) : Option (Dict Json) :=
  ((members.filter fun member => !names.contains member.1).mapM (readMember value?)).map Dict.ofList

/-- Absent members take their defaults; null, a wrong type or a repeated member is an error. -/
def read (json : Json) : Option Settings := do
  let members ← members? json
  return {
    logoUrl := ← once? "LogoURL" "" text? members
    filteredLabels := ← once? "BlackListedLabels" [] (list? readLabel) members
    snapshotInterval := ← once? "SnapshotInterval" "" text? members
    checkinInterval := ← once? "EdgeAgentCheckinInterval" 0 seconds? members
    allowBindMounts := ← once? "AllowBindMountsForRegularUsers" false bool? members
    allowPrivilegedMode := ← once? "AllowPrivilegedModeForRegularUsers" false bool? members
    allowVolumeBrowser := ← once? "AllowVolumeBrowserForRegularUsers" false bool? members
    enableHostManagement := ← once? "EnableHostManagementFeatures" false bool? members
    enableEdgeCompute := ← once? "EnableEdgeComputeFeatures" false bool? members
    allowHostNamespace := ← once? "AllowHostNamespaceForRegularUsers" false bool? members
    allowDeviceMapping := ← once? "AllowDeviceMappingForRegularUsers" false bool? members
    allowStackManagement := ← once? "AllowStackManagementForRegularUsers" false bool? members
    allowContainerCapabilities :=
      ← once? "AllowContainerCapabilitiesForRegularUsers" false bool? members
    enableTelemetry := ← once? "EnableTelemetry" false bool? members
    extra := ← readExtra members }

def writeFields (settings : Settings) : List (String × Json) :=
  [("LogoURL", .str settings.logoUrl),
    ("BlackListedLabels", .arr (settings.filteredLabels.map writeLabel)),
    ("SnapshotInterval", .str settings.snapshotInterval),
    ("EdgeAgentCheckinInterval", .int settings.checkinInterval.toNat),
    ("AllowBindMountsForRegularUsers", .bool settings.allowBindMounts),
    ("AllowPrivilegedModeForRegularUsers", .bool settings.allowPrivilegedMode),
    ("AllowVolumeBrowserForRegularUsers", .bool settings.allowVolumeBrowser),
    ("EnableHostManagementFeatures", .bool settings.enableHostManagement),
    ("EnableEdgeComputeFeatures", .bool settings.enableEdgeCompute),
    ("AllowHostNamespaceForRegularUsers", .bool settings.allowHostNamespace),
    ("AllowDeviceMappingForRegularUsers", .bool settings.allowDeviceMapping),
    ("AllowStackManagementForRegularUsers", .bool settings.allowStackManagement),
    ("AllowContainerCapabilitiesForRegularUsers", .bool settings.allowContainerCapabilities),
    ("EnableTelemetry", .bool settings.enableTelemetry)]

def write (settings : Settings) : Json := .obj (settings.writeFields ++ settings.extra.entries)

/-- The intervals offered, with the text by which they are offered. -/
def checkinOptions : List (String × UInt32) :=
  [("5 seconds", 5), ("10 seconds", 10), ("30 seconds", 30)]

/-- Takes only an interval that is offered. -/
def setCheckinInterval (settings : Settings) (seconds : UInt32) : Except Problem Settings :=
  if checkinOptions.any (fun offered => offered.2 = seconds) then
    .ok { settings with checkinInterval := seconds }
  else .error (.invalidCheckinInterval seconds)

end Settings

end ClusterDesk
