import ClusterDesk.Settings
import ClusterDesk.Text.Quoted

/-!
What the application keeps between runs: for some of the settings, the value they had when they
were last saved. Updates replace one field each.
-/

namespace ClusterDesk

structure AppState where
  logo : String := ""
  snapshotInterval : String := ""
  enableHostManagement : Bool := false
  enableVolumeBrowser : Bool := false
  allowHostNamespace : Bool := false
  enableEdgeCompute : Bool := false
  allowDeviceMapping : Bool := false
  allowStackManagement : Bool := false
  allowContainerCapabilities : Bool := false
  allowPrivilegedMode : Bool := false
  allowBindMounts : Bool := false
  enableTelemetry : Bool := false
  deriving DecidableEq, Repr, Inhabited

namespace AppState

/-- A new value for one field. -/
inductive Update where
  | logo (value : String)
  | snapshotInterval (value : String)
  | enableHostManagement (value : Bool)
  | enableVolumeBrowser (value : Bool)
  | allowHostNamespace (value : Bool)
  | enableEdgeCompute (value : Bool)
  | allowDeviceMapping (value : Bool)
  | allowStackManagement (value : Bool)
  | allowContainerCapabilities (value : Bool)
  | allowPrivilegedMode (value : Bool)
  | allowBindMounts (value : Bool)
  | enableTelemetry (value : Bool)
  deriving DecidableEq, Repr

/-- The name of the field, as it is told. -/
def Update.name : Update → String
  | logo _ => "Logo"
  | snapshotInterval _ => "SnapshotInterval"
  | enableHostManagement _ => "EnableHostManagementFeatures"
  | enableVolumeBrowser _ => "EnableVolumeBrowserForNonAdminUsers"
  | allowHostNamespace _ => "AllowHostNamespaceForRegularUsers"
  | enableEdgeCompute _ => "EnableEdgeComputeFeatures"
  | allowDeviceMapping _ => "AllowDeviceMappingForRegularUsers"
  | allowStackManagement _ => "AllowStackManagementForRegularUsers"
  | allowContainerCapabilities _ => "AllowContainerCapabilitiesForRegularUsers"
  | allowPrivilegedMode _ => "AllowPrivilegedModeForRegularUsers"
  | allowBindMounts _ => "AllowBindMountsForRegularUsers"
  | enableTelemetry _ => "EnableTelemetry"

def Update.value : Update → Json
  | logo value | snapshotInterval value => .str value
  | enableHostManagement value | enableVolumeBrowser value | allowHostNamespace value
  | enableEdgeCompute value | allowDeviceMapping value | allowStackManagement value
  | allowContainerCapabilities value | allowPrivilegedMode value | allowBindMounts value
  | enableTelemetry value => .bool value

/-- The update of the field that has this name. -/
def Update.named? : String → Json → Option Update
  | "Logo", .str value => some (.logo value)
  | "SnapshotInterval", .str value => some (.snapshotInterval value)
  | "EnableHostManagementFeatures", .bool value => some (.enableHostManagement value)
  | "EnableVolumeBrowserForNonAdminUsers", .bool value => some (.enableVolumeBrowser value)
  | "AllowHostNamespaceForRegularUsers", .bool value => some (.allowHostNamespace value)
  | "EnableEdgeComputeFeatures", .bool value => some (.enableEdgeCompute value)
  | "AllowDeviceMappingForRegularUsers", .bool value => some (.allowDeviceMapping value)
  | "AllowStackManagementForRegularUsers", .bool value => some (.allowStackManagement value)
  | "AllowContainerCapabilitiesForRegularUsers", .bool value =>
    some (.allowContainerCapabilities value)
  | "AllowPrivilegedModeForRegularUsers", .bool value => some (.allowPrivilegedMode value)
  | "AllowBindMountsForRegularUsers", .bool value => some (.allowBindMounts value)
  | "EnableTelemetry", .bool value => some (.enableTelemetry value)
  | _, _ => none

def Update.describe (update : Update) : String :=
  let shown := match update.value with
    | .str value => Quoted.quote value
    | .bool true => "true"
    | _ => "false"
  update.name ++ "(" ++ shown ++ ")"

def Update.apply : Update → AppState → AppState
  | logo value, state => { state with logo := value }
  | snapshotInterval value, state => { state with snapshotInterval := value }
  | enableHostManagement value, state => { state with enableHostManagement := value }
  | enableVolumeBrowser value, state => { state with enableVolumeBrowser := value }
  | allowHostNamespace value, state => { state with allowHostNamespace := value }
  | enableEdgeCompute value, state => { state with enableEdgeCompute := value }
  | allowDeviceMapping value, state => { state with allowDeviceMapping := value }
  | allowStackManagement value, state => { state with allowStackManagement := value }
  | allowContainerCapabilities value, state => { state with allowContainerCapabilities := value }
  | allowPrivilegedMode value, state => { state with allowPrivilegedMode := value }
  | allowBindMounts value, state => { state with allowBindMounts := value }
  | enableTelemetry value, state => { state with enableTelemetry := value }

def applyAll (state : AppState) (updates : List Update) : AppState :=
  updates.foldl (fun state update => update.apply state) state

/-- One update for every field. -/
def updatesOf (settings : Settings) : List Update :=
  [.logo settings.logoUrl, .snapshotInterval settings.snapshotInterval,
    .enableHostManagement settings.enableHostManagement,
    .enableVolumeBrowser settings.allowVolumeBrowser,
    .allowHostNamespace settings.allowHostNamespace,
    .enableEdgeCompute settings.enableEdgeCompute,
    .allowDeviceMapping settings.allowDeviceMapping,
    .allowStackManagement settings.allowStackManagement,
    .allowContainerCapabilities settings.allowContainerCapabilities,
    .allowPrivilegedMode settings.allowPrivilegedMode,
    .allowBindMounts settings.allowBindMounts,
    .enableTelemetry settings.enableTelemetry]

/-- The state in which every field has the value of the settings. -/
def ofSettings (settings : Settings) : AppState where
  logo := settings.logoUrl
  snapshotInterval := settings.snapshotInterval
  enableHostManagement := settings.enableHostManagement
  enableVolumeBrowser := settings.allowVolumeBrowser
  allowHostNamespace := settings.allowHostNamespace
  enableEdgeCompute := settings.enableEdgeCompute
  allowDeviceMapping := settings.allowDeviceMapping
  allowStackManagement := settings.allowStackManagement
  allowContainerCapabilities := settings.allowContainerCapabilities
  allowPrivilegedMode := settings.allowPrivilegedMode
  allowBindMounts := settings.allowBindMounts
  enableTelemetry := settings.enableTelemetry

theorem Update.named?_name (update : Update) : named? update.name update.value = some update := by
  cases update <;> rfl

theorem applyAll_updatesOf (settings : Settings) (state : AppState) :
    state.applyAll (updatesOf settings) = ofSettings settings := rfl

end AppState

end ClusterDesk
