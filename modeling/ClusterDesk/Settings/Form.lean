import ClusterDesk.Settings

/-!
The form in which settings are edited. What users are allowed to do is mostly shown as what they
are kept from doing.
-/

namespace ClusterDesk

structure SettingsForm where
  customLogo : Bool := false
  restrictBindMounts : Bool := false
  restrictPrivilegedMode : Bool := false
  /-- Name and value of a label to be added. -/
  labelName : String := ""
  labelValue : String := ""
  enableHostManagement : Bool := false
  enableVolumeBrowser : Bool := false
  enableEdgeCompute : Bool := false
  restrictHostNamespace : Bool := false
  disableDeviceMapping : Bool := false
  disableStackManagement : Bool := false
  disableContainerCapabilities : Bool := false
  enableTelemetry : Bool := false
  deriving DecidableEq, Repr, Inhabited

namespace SettingsForm

def ofSettings (settings : Settings) : SettingsForm where
  customLogo := settings.logoUrl ≠ ""
  restrictBindMounts := !settings.allowBindMounts
  restrictPrivilegedMode := !settings.allowPrivilegedMode
  enableHostManagement := settings.enableHostManagement
  enableVolumeBrowser := settings.allowVolumeBrowser
  enableEdgeCompute := settings.enableEdgeCompute
  restrictHostNamespace := !settings.allowHostNamespace
  disableDeviceMapping := !settings.allowDeviceMapping
  disableStackManagement := !settings.allowStackManagement
  disableContainerCapabilities := !settings.allowContainerCapabilities
  enableTelemetry := settings.enableTelemetry

/-- Without a custom logo the logo is emptied; the label is not part of the settings. -/
def apply (form : SettingsForm) (settings : Settings) : Settings :=
  { settings with
    logoUrl := if form.customLogo then settings.logoUrl else ""
    allowBindMounts := !form.restrictBindMounts
    allowPrivilegedMode := !form.restrictPrivilegedMode
    allowVolumeBrowser := form.enableVolumeBrowser
    enableHostManagement := form.enableHostManagement
    enableEdgeCompute := form.enableEdgeCompute
    allowHostNamespace := !form.restrictHostNamespace
    allowDeviceMapping := !form.disableDeviceMapping
    allowStackManagement := !form.disableStackManagement
    allowContainerCapabilities := !form.disableContainerCapabilities
    enableTelemetry := form.enableTelemetry }

/-- Whether users are kept from editing containers. -/
def isContainerEditDisabled (form : SettingsForm) : Bool :=
  form.restrictBindMounts || form.restrictHostNamespace || form.restrictPrivilegedMode ||
    form.disableDeviceMapping || form.disableContainerCapabilities

def filteredLabel (form : SettingsForm) : FilteredLabel := ⟨form.labelName, form.labelValue⟩

end SettingsForm

end ClusterDesk
