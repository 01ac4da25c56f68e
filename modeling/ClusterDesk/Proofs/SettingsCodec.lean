import ClusterDesk.Proofs.JsonValue
import ClusterDesk.Settings.Form

/-!
Settings and their JSON object. Reading looks up the members that have fields and takes all others
as they are, so it undoes writing unless one of those others has the name of a field; reading never
lets that happen, nor does any edit. Main statement: `settings_round_trip`.
-/

namespace ClusterDesk.Settings

open Json
open Dict (lookup)

/-- No member without a field has the name of one. -/
def ExtraApart (settings : Settings) : Prop :=
  ∀ name ∈ names, settings.extra.find? name = none

/-- The members without a field are values. -/
def ExtraValues (settings : Settings) : Prop :=
  ∀ member ∈ settings.extra.entries, IsValue member.2

/-- What clients change in settings. -/
inductive Change where
  | fill (form : SettingsForm)
  | checkinInterval (seconds : UInt32)
  | logo (text : String)
  | addLabel (label : FilteredLabel)
  | removeLabel (index : Nat)

def Change.apply : Change → Settings → Except Problem Settings
  | fill form, settings => .ok (form.apply settings)
  | checkinInterval seconds, settings => settings.setCheckinInterval seconds
  | logo text, settings => .ok { settings with logoUrl := text }
  | addLabel label, settings =>
    .ok { settings with filteredLabels := settings.filteredLabels ++ [label] }
  | removeLabel index, settings =>
    .ok { settings with filteredLabels := settings.filteredLabels.eraseIdx index }

theorem Change.extra_apply {change : Change} {settings edited : Settings}
    (applied : change.apply settings = .ok edited) : edited.extra = settings.extra := by
  cases change with
  | checkinInterval seconds =>
    rw [apply, setCheckinInterval] at applied
    split at applied
    · cases applied
      rfl
    · cases applied
  | fill form =>
    cases applied
    rfl
  | logo text =>
    cases applied
    rfl
  | addLabel label =>
    cases applied
    rfl
  | removeLabel index =>
    cases applied
    rfl

theorem extra_foldlM {changes : List Change} {settings edited : Settings}
    (applied : changes.foldlM (fun current change => change.apply current) settings = .ok edited) :
    edited.extra = settings.extra := by
  induction changes generalizing settings with
  | nil =>
    cases applied
    rfl
  | cons change rest ih =>
    rw [List.foldlM_cons] at applied
    cases first : change.apply settings with
    | error problem =>
      rw [first] at applied
      cases applied
    | ok middle =>
      rw [first] at applied
      rw [ih applied, Change.extra_apply first]

section Reading

/-- What reading finds in an object, one field after another. -/
structure Reads (members : List (String × Json)) (settings : Settings) : Prop where
  logoUrl : once? "LogoURL" "" text? members = some settings.logoUrl
  filteredLabels :
    once? "BlackListedLabels" [] (list? readLabel) members = some settings.filteredLabels
  snapshotInterval : once? "SnapshotInterval" "" text? members = some settings.snapshotInterval
  checkinInterval :
    once? "EdgeAgentCheckinInterval" 0 seconds? members = some settings.checkinInterval
  allowBindMounts :
    once? "AllowBindMountsForRegularUsers" false bool? members = some settings.allowBindMounts
  allowPrivilegedMode : once? "AllowPrivilegedModeForRegularUsers" false bool? members =
    some settings.allowPrivilegedMode
  allowVolumeBrowser : once? "AllowVolumeBrowserForRegularUsers" false bool? members =
    some settings.allowVolumeBrowser
  enableHostManagement : once? "EnableHostManagementFeatures" false bool? members =
    some settings.enableHostManagement
  enableEdgeCompute :
    once? "EnableEdgeComputeFeatures" false bool? members = some settings.enableEdgeCompute
  allowHostNamespace : once? "AllowHostNamespaceForRegularUsers" false bool? members =
    some settings.allowHostNamespace
  allowDeviceMapping : once? "AllowDeviceMappingForRegularUsers" false bool? members =
    some settings.allowDeviceMapping
  allowStackManagement : once? "AllowStackManagementForRegularUsers" false bool? members =
    some settings.allowStackManagement
  allowContainerCapabilities :
    once? "AllowContainerCapabilitiesForRegularUsers" false bool? members =
      some settings.allowContainerCapabilities
  enableTelemetry : once? "EnableTelemetry" false bool? members = some settings.enableTelemetry
  extra : readExtra members = some settings.extra

theorem read_eq_some_iff {json : Json} {settings : Settings} :
    read json = some settings ↔ ∃ members, json = .obj members ∧ Reads members settings := by
  constructor
  · intro found
    obtain ⟨members, object, found⟩ := Option.bind_eq_some_iff.mp found
    obtain ⟨logo, hasLogo, found⟩ := Option.bind_eq_some_iff.mp found
    obtain ⟨labels, hasLabels, found⟩ := Option.bind_eq_some_iff.mp found
    obtain ⟨snapshot, hasSnapshot, found⟩ := Option.bind_eq_some_iff.mp found
    obtain ⟨interval, hasInterval, found⟩ := Option.bind_eq_some_iff.mp found
    obtain ⟨mounts, hasMounts, found⟩ := Option.bind_eq_some_iff.mp found
    obtain ⟨privileged, hasPrivileged, found⟩ := Option.bind_eq_some_iff.mp found
    obtain ⟨browser, hasBrowser, found⟩ := Option.bind_eq_some_iff.mp found
    obtain ⟨host, hasHost, found⟩ := Option.bind_eq_some_iff.mp found
    obtain ⟨edge, hasEdge, found⟩ := Option.bind_eq_some_iff.mp found
    obtain ⟨space, hasSpace, found⟩ := Option.bind_eq_some_iff.mp found
    obtain ⟨device, hasDevice, found⟩ := Option.bind_eq_some_iff.mp found
    obtain ⟨stack, hasStack, found⟩ := Option.bind_eq_some_iff.mp found
    obtain ⟨capabilities, hasCapabilities, found⟩ := Option.bind_eq_some_iff.mp found
    obtain ⟨telemetry, hasTelemetry, found⟩ := Option.bind_eq_some_iff.mp found
    obtain ⟨extra, hasExtra, found⟩ := Option.bind_eq_some_iff.mp found
    cases found
    cases json with
    | obj inner =>
      cases object
      exact ⟨_, rfl, hasLogo, hasLabels, hasSnapshot, hasInterval, hasMounts, hasPrivileged,
        hasBrowser, hasHost, hasEdge, hasSpace, hasDevice, hasStack, hasCapabilities, hasTelemetry,
        hasExtra⟩
    | _ => cases object
  · rintro ⟨members, rfl, reads⟩
    cases settings
    have object : members? (.obj members) = some members := rfl
    rw [read, object, Option.bind_eq_bind, Option.bind_some, reads.logoUrl, reads.filteredLabels,
      reads.snapshotInterval, reads.checkinInterval, reads.allowBindMounts,
      reads.allowPrivilegedMode, reads.allowVolumeBrowser, reads.enableHostManagement,
      reads.enableEdgeCompute, reads.allowHostNamespace, reads.allowDeviceMapping,
      reads.allowStackManagement, reads.allowContainerCapabilities, reads.enableTelemetry,
      reads.extra]
    rfl

variable {members : List (String × Json)} {settings : Settings}

theorem readExtra_eq_some {extra : Dict Json} (found : readExtra members = some extra) :
    (∀ name ∈ names, extra.find? name = none) ∧ ∀ member ∈ extra.entries, IsValue member.2 := by
  rw [readExtra, mapM_readMember_value?] at found
  obtain ⟨values, read, rfl⟩ := Option.map_eq_some_iff.mp found
  have keys := keys_memberValues? read
  constructor
  · intro name field
    rw [Dict.find?_ofList, Dict.lookup_eq_none, List.map_reverse, List.mem_reverse, keys]
    intro inside
    obtain ⟨member, passes, rfl⟩ := List.mem_map.mp inside
    have outside := (List.mem_filter.mp passes).2
    simp [field] at outside
  · intro member inside
    exact isValue_memberValues? read member (Dict.mem_of_mem_ofList inside)

theorem readExtra_of_values (distinct : (members.map (·.1)).Nodup)
    (values : ∀ member ∈ members, member.1 ∉ names → IsValue member.2) :
    ∃ extra, readExtra members = some extra ∧
      ∀ name, extra.find? name = if name ∈ names then none else lookup name members := by
  let rest := members.filter fun member => !names.contains member.1
  have restDistinct : (rest.map (·.1)).Nodup := distinct.sublist (List.filter_sublist.map _)
  have valued : memberValues? rest = some rest := by
    refine memberValues?_eq_some_iff.mpr ?_
    intro member inside
    obtain ⟨there, passes⟩ := List.mem_filter.mp inside
    exact values member there (by simpa using passes)
  refine ⟨Dict.ofList rest, ?_, ?_⟩
  · rw [readExtra, mapM_readMember_value?, valued]
    rfl
  · intro name
    rw [Dict.find?_ofList, Dict.lookup_reverse restDistinct,
      Dict.lookup_filter (fun name => !names.contains name)]
    by_cases inside : name ∈ names <;> simp [inside]

theorem extra_of_read {json : Json} (found : read json = some settings) :
    settings.ExtraApart ∧ settings.ExtraValues := by
  obtain ⟨members, -, reads⟩ := read_eq_some_iff.mp found
  exact readExtra_eq_some reads.extra

theorem once?_of_lookup {α : Type} {name : String} {default : α} {read : Json → Option α}
    {json : Json} (distinct : (members.map (·.1)).Nodup)
    (there : lookup name members = some json) : once? name default read members = read json := by
  rw [once?_eq_lookup distinct, there]
  rfl

theorem list?_writeLabel (labels : List FilteredLabel) :
    list? readLabel (.arr (labels.map writeLabel)) = some labels := by
  refine list?_eq_some_iff.mpr ⟨_, rfl, ?_⟩
  rw [List.forall₂_map_left_iff]
  exact List.forall₂_same.mpr fun label _ => rfl

theorem seconds?_eq_some_iff {json : Json} {seconds : UInt32} :
    seconds? json = some seconds ↔ json = .int seconds.toNat := by
  constructor
  · intro found
    obtain ⟨count, below, rfl⟩ := Option.map_eq_some_iff.mp found
    cases json with
    | int value =>
      rw [natBelow?] at below
      split at below
      · rename_i range
        cases below
        have small : value.toNat < UInt32.size := by
          have limit : (Nat.pow 2 32 : Int) = UInt32.size := rfl
          omega
        rw [UInt32.toNat_ofNat_of_lt' small, Int.toNat_of_nonneg range.1]
      · cases below
    | _ => cases below
  · rintro rfl
    have small := seconds.toNat_lt
    simp only [seconds?, natBelow?, Int.toNat_natCast, Option.map_eq_some_iff]
    refine ⟨seconds.toNat, if_pos ⟨by omega, ?_⟩, UInt32.ofNat_toNat⟩
    have limit : (Nat.pow 2 32 : Int) = 2 ^ 32 := rfl
    omega

/-- Members named once are read as the settings that say what each of them is. -/
theorem reads_of_lookup (distinct : (members.map (·.1)).Nodup)
    (fields : ∀ member ∈ settings.writeFields, lookup member.1 members = some member.2)
    (others : ∀ name ∉ names, lookup name members = settings.extra.find? name)
    (apart : settings.ExtraApart) (values : settings.ExtraValues) : Reads members settings := by
  have field : ∀ {α : Type} {default : α} {read : Json → Option α} (name : String) (json : Json),
      (name, json) ∈ settings.writeFields → once? name default read members = read json :=
    fun name json member => once?_of_lookup distinct (fields (name, json) member)
  have extra : readExtra members = some settings.extra := by
    have valued : ∀ member ∈ members, member.1 ∉ names → IsValue member.2 := by
      intro member inside other
      have there := Dict.lookup_eq_some_of_mem distinct inside
      rw [others member.1 other] at there
      exact values _ (Dict.mem_of_lookup_eq_some there)
    obtain ⟨extra, read, found⟩ := readExtra_of_values distinct valued
    have same : extra = settings.extra := by
      refine Dict.ext fun name => ?_
      rw [found]
      by_cases inside : name ∈ names
      · rw [if_pos inside, apart name inside]
      · rw [if_neg inside, others name inside]
    rw [read, same]
  have labels := list?_writeLabel settings.filteredLabels
  have interval := seconds?_eq_some_iff.mpr (rfl : Json.int settings.checkinInterval.toNat = _)
  constructor
  case filteredLabels => rw [field _ _ (by simp [writeFields]; rfl), labels]
  case checkinInterval => rw [field _ _ (by simp [writeFields]; rfl), interval]
  case extra => exact extra
  all_goals
    rw [field _ _ (by simp [writeFields]; rfl)]
    rfl

end Reading

section Writing

variable {settings : Settings}

def members (settings : Settings) : List (String × Json) :=
  settings.writeFields ++ settings.extra.entries

theorem keys_writeFields (settings : Settings) : settings.writeFields.map (·.1) = names := rfl

theorem distinct_members (apart : settings.ExtraApart) : (settings.members.map (·.1)).Nodup := by
  rw [members, List.map_append, keys_writeFields]
  refine List.nodup_append.mpr ⟨by decide, Dict.Ascending.nodup settings.extra.ascending, ?_⟩
  rintro name field other inside rfl
  exact Dict.lookup_eq_none.mp (apart name field) inside

theorem lookup_field (apart : settings.ExtraApart) {member : String × Json}
    (field : member ∈ settings.writeFields) : lookup member.1 settings.members = some member.2 :=
  Dict.lookup_eq_some_of_mem (distinct_members apart) (List.mem_append_left _ field)

theorem lookup_other {name : String} (other : name ∉ names) :
    lookup name settings.members = settings.extra.find? name := by
  have absent : lookup name settings.writeFields = none := by
    rw [Dict.lookup_eq_none, keys_writeFields]
    exact other
  rw [members, Dict.lookup_append, absent, Option.none_or]
  rfl

theorem isValue_writeLabel (label : FilteredLabel) : IsValue (writeLabel label) := by
  have ascending : ["name", "value"].Pairwise (· < ·) := by decide
  refine isValue_obj.mpr ⟨ascending, ?_⟩
  intro member inside
  simp only [List.mem_cons, List.not_mem_nil, or_false] at inside
  rcases inside with rfl | rfl <;> rfl

theorem isValue_of_mem_members (values : settings.ExtraValues) {member : String × Json}
    (inside : member ∈ settings.members) : IsValue member.2 := by
  rcases List.mem_append.mp inside with field | other
  · simp only [writeFields, List.mem_cons, List.not_mem_nil, or_false] at field
    rcases field with rfl | rfl | rfl | rfl | rfl | rfl | rfl | rfl | rfl | rfl | rfl | rfl | rfl |
      rfl
    case inr.inl =>
      refine isValue_arr.mpr ?_
      intro item listed
      obtain ⟨label, -, rfl⟩ := List.mem_map.mp listed
      exact isValue_writeLabel label
    all_goals rfl
  · exact values member other

/-- Nowhere in the encoding has an object two members of one name. -/
theorem distinct_of_at? (apart : settings.ExtraApart) (values : settings.ExtraValues)
    {path : List Step} {inner : List (String × Json)}
    (found : settings.write.at? path = some (.obj inner)) : (inner.map (·.1)).Nodup := by
  cases path with
  | nil =>
    cases found
    exact distinct_members apart
  | cons step rest =>
    cases step with
    | item index => cases found
    | member name =>
      obtain ⟨part, there, later⟩ := Option.bind_eq_some_iff.mp found
      have inside : (name, part) ∈ settings.members :=
        List.mem_reverse.mp (Dict.mem_of_lookup_eq_some there)
      have valued := (isValue_of_mem_members values inside).at? later
      exact (isValue_obj.mp valued).1.nodup

theorem read_write (apart : settings.ExtraApart) (values : settings.ExtraValues) :
    read settings.write = some settings :=
  read_eq_some_iff.mpr ⟨_, rfl, reads_of_lookup (distinct_members apart)
    (fun _ field => lookup_field apart field) (fun _ other => lookup_other other) apart values⟩

/-- The encoding as a value, its members in order, is read alike. -/
theorem read_value_write (apart : settings.ExtraApart) (values : settings.ExtraValues) :
    ∃ value, settings.write.value? = some value ∧ read value = some settings := by
  have valued : memberValues? settings.members = some settings.members :=
    memberValues?_eq_some_iff.mpr fun _ inside => isValue_of_mem_members values inside
  have sorted : settings.write.value? = some (.obj (Dict.ofList settings.members).entries) := by
    show (memberValues? settings.members).map _ = _
    rw [valued]
    rfl
  have found : ∀ name, lookup name (Dict.ofList settings.members).entries =
      lookup name settings.members := by
    intro name
    have same := Dict.find?_ofList settings.members name
    rw [Dict.lookup_reverse (distinct_members apart)] at same
    exact same
  have distinct := Dict.Ascending.nodup (Dict.ofList settings.members).ascending
  refine ⟨_, sorted, read_eq_some_iff.mpr ⟨_, rfl, reads_of_lookup distinct ?_ ?_ apart values⟩⟩
  · intro member field
    rw [found]
    exact lookup_field apart field
  · intro name other
    rw [found]
    exact lookup_other other

end Writing

/-- No settings that were read have a member in `extra` with the name of a field, and no edits put
one there; all settings without one are read from their encoding as they were. -/
theorem settings_round_trip :
    (∀ json settings, read json = some settings →
      settings.ExtraApart ∧ settings.ExtraValues) ∧
    (∀ (changes : List Change) (settings edited : Settings), settings.ExtraApart →
      changes.foldlM (fun current change => change.apply current) settings = .ok edited →
      edited.ExtraApart) ∧
    ∀ settings : Settings, settings.ExtraApart → settings.ExtraValues →
      (∀ path inner, settings.write.at? path = some (.obj inner) → (inner.map (·.1)).Nodup) ∧
      read settings.write = some settings ∧
      ∃ value, settings.write.value? = some value ∧ read value = some settings := by
  refine ⟨fun json settings found => extra_of_read found, ?_, ?_⟩
  · intro changes settings edited apart applied
    unfold ExtraApart
    rw [extra_foldlM applied]
    exact apart
  · intro settings apart values
    exact ⟨fun path inner found => distinct_of_at? apart values found, read_write apart values,
      read_value_write apart values⟩

/-- Settings with a nested member of their own are read, edited, written and read again. -/
theorem settings_round_trip_edited :
    let json : Json := .obj
      [("AuthenticationMethod", .obj [("ldap", .arr [.int 1, .null])]),
        ("EnableTelemetry", .bool true)]
    let changes : List Change :=
      [.fill { customLogo := true }, .logo "l", .addLabel ⟨"team", "ops"⟩, .checkinInterval 10]
    ∃ settings edited, read json = some settings ∧ settings.ExtraApart ∧
      changes.foldlM (fun current change => change.apply current) settings = .ok edited ∧
      edited.ExtraApart ∧ edited.ExtraValues ∧ read edited.write = some edited := by
  intro json changes
  let extra : Dict Json := Dict.ofList
    [("AuthenticationMethod", .obj [("ldap", .arr [.int 1, .null])])]
  let settings : Settings := { enableTelemetry := true, extra }
  let edited : Settings :=
    { (SettingsForm.apply { customLogo := true } settings) with
      logoUrl := "l", filteredLabels := [⟨"team", "ops"⟩], checkinInterval := 10 }
  have found : read json = some settings := by decide
  have applied : changes.foldlM (fun current change => change.apply current) settings =
      .ok edited := rfl
  obtain ⟨reading, editing, writing⟩ := settings_round_trip
  obtain ⟨apart, values⟩ := reading json settings found
  have kept : edited.ExtraApart := editing changes settings edited apart applied
  exact ⟨settings, edited, found, apart, applied, kept, values, (writing edited kept values).2.1⟩

end ClusterDesk.Settings
