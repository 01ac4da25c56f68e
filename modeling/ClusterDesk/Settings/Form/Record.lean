import ClusterDesk.Settings.Form

/-!
Settings forms as records: one JSON member for each field of the form, and one that tells whether
users are kept from editing containers.
-/

namespace ClusterDesk.SettingsForm

open Json

def record (form : SettingsForm) : Json :=
  .obj
    [("custom_logo", .bool form.customLogo),
      ("restrict_bind_mounts", .bool form.restrictBindMounts),
      ("restrict_privileged_mode", .bool form.restrictPrivilegedMode),
      ("label_name", .str form.labelName), ("label_value", .str form.labelValue),
      ("enable_host_management_features", .bool form.enableHostManagement),
      ("enable_volume_browser", .bool form.enableVolumeBrowser),
      ("enable_edge_compute_features", .bool form.enableEdgeCompute),
      ("restrict_host_namespace_for_regular_users", .bool form.restrictHostNamespace),
      ("disable_device_mapping_for_regular_users", .bool form.disableDeviceMapping),
      ("disable_stack_management_for_regular_users", .bool form.disableStackManagement),
      ("disable_container_capabilities_for_regular_users",
        .bool form.disableContainerCapabilities),
      ("enable_telemetry", .bool form.enableTelemetry),
      ("container_edit_disabled", .bool form.isContainerEditDisabled)]

/-- Sets the field of that name; without such a field, or with a value of another type, there is no
result. -/
def setField (form : SettingsForm) (name : String) (value : Json) : Option SettingsForm :=
  match name, value with
  | "custom_logo", .bool flag => some { form with customLogo := flag }
  | "restrict_bind_mounts", .bool flag => some { form with restrictBindMounts := flag }
  | "restrict_privileged_mode", .bool flag => some { form with restrictPrivilegedMode := flag }
  | "label_name", .str text => some { form with labelName := text }
  | "label_value", .str text => some { form with labelValue := text }
  | "enable_host_management_features", .bool flag =>
    some { form with enableHostManagement := flag }
  | "enable_volume_browser", .bool flag => some { form with enableVolumeBrowser := flag }
  | "enable_edge_compute_features", .bool flag => some { form with enableEdgeCompute := flag }
  | "restrict_host_namespace_for_regular_users", .bool flag =>
    some { form with restrictHostNamespace := flag }
  | "disable_device_mapping_for_regular_users", .bool flag =>
    some { form with disableDeviceMapping := flag }
  | "disable_stack_management_for_regular_users", .bool flag =>
    some { form with disableStackManagement := flag }
  | "disable_container_capabilities_for_regular_users", .bool flag =>
    some { form with disableContainerCapabilities := flag }
  | "enable_telemetry", .bool flag => some { form with enableTelemetry := flag }
  | _, _ => none

end ClusterDesk.SettingsForm
