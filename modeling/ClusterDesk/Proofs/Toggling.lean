import ClusterDesk.Command.Editing
import ClusterDesk.Proofs.Submission

/-!
Settings that are changed by what is given on the command line. What is given passes through the
form, where most permissions stand as what users are kept from. Main statement: `given_replaced`:
the settings that are sent are those that were read, with exactly what was given in place of what
was there, and nothing is sent with an interval that is not offered.
-/

namespace ClusterDesk

namespace Toggles

/-- An interval is one of those offered, if it is given. -/
def Offered (toggles : Toggles) : Prop :=
  ∀ seconds, toggles.checkinInterval = some seconds → seconds ∈ Settings.checkinOptions.map (·.2)

/-- The permission that is left by what users are to be kept from, if that is told. -/
def permission (kept : Option Bool) (before : Bool) : Bool := kept.elim before (!·)

/-- The settings with what is given in place of what was there. -/
def replace (toggles : Toggles) (settings : Settings) : Settings :=
  { settings with
    logoUrl := toggles.logo.getD settings.logoUrl
    checkinInterval := toggles.checkinInterval.getD settings.checkinInterval
    allowBindMounts := permission toggles.restrictBindMounts settings.allowBindMounts
    allowPrivilegedMode := permission toggles.restrictPrivilegedMode settings.allowPrivilegedMode
    allowHostNamespace := permission toggles.restrictHostNamespace settings.allowHostNamespace
    allowDeviceMapping := permission toggles.disableDeviceMapping settings.allowDeviceMapping
    allowStackManagement := permission toggles.disableStackManagement settings.allowStackManagement
    allowContainerCapabilities :=
      permission toggles.disableContainerCapabilities settings.allowContainerCapabilities
    enableHostManagement := toggles.enableHostManagement.getD settings.enableHostManagement
    allowVolumeBrowser := toggles.enableVolumeBrowser.getD settings.allowVolumeBrowser
    enableEdgeCompute := toggles.enableEdgeCompute.getD settings.enableEdgeCompute
    enableTelemetry := toggles.enableTelemetry.getD settings.enableTelemetry }

theorem offers_iff (seconds : UInt32) :
    Settings.checkinOptions.any (fun offered => offered.2 = seconds) = true ↔
      seconds ∈ Settings.checkinOptions.map (·.2) := by
  rw [List.any_eq_true, List.mem_map]
  simp only [decide_eq_true_eq]

theorem withInterval_of_offered {toggles : Toggles} (offered : toggles.Offered)
    (settings : Settings) :
    toggles.withInterval settings =
      .ok { settings with
        checkinInterval := toggles.checkinInterval.getD settings.checkinInterval } := by
  unfold withInterval
  cases given : toggles.checkinInterval with
  | none => rfl
  | some seconds => exact if_pos ((offers_iff seconds).mpr (offered seconds given))

theorem withInterval_of_not_offered {toggles : Toggles} (refused : ¬ toggles.Offered)
    (settings : Settings) :
    ∃ seconds, toggles.checkinInterval = some seconds ∧
      toggles.withInterval settings = .error (.invalidCheckinInterval seconds) := by
  obtain ⟨seconds, lacking⟩ := Classical.not_forall.mp refused
  obtain ⟨given, missing⟩ := Classical.not_imp.mp lacking
  refine ⟨seconds, given, ?_⟩
  unfold withInterval
  rw [given]
  exact if_neg fun offered => missing ((offers_iff seconds).mp offered)

/-- Kept from what was not permitted is what a form says without being told. -/
theorem not_getD_not (kept : Option Bool) (before : Bool) :
    (!kept.getD (!before)) = permission kept before := by
  cases kept with
  | none => exact Bool.not_not before
  | some told => rfl

/-- The view of the settings, once what is given has been entered. -/
def entered (toggles : Toggles) (settings : Settings) : SettingsView where
  settings :=
    { settings with
      logoUrl := toggles.logo.getD settings.logoUrl
      checkinInterval := toggles.checkinInterval.getD settings.checkinInterval }
  form := toggles.onForm (.ofSettings settings)

theorem apply_of_offered {toggles : Toggles} (offered : toggles.Offered) (settings : Settings) :
    toggles.apply (.ofSettings settings) = .ok (toggles.entered settings) := by
  rw [apply, SettingsView.ofSettings, withInterval_of_offered offered]
  rfl

/-- The logo survives the form, whether it is given, taken away, or not told of. -/
theorem logo_entered (toggles : Toggles) (settings : Settings) :
    (if (toggles.entered settings).form.customLogo then
      (toggles.entered settings).settings.logoUrl else "") =
        toggles.logo.getD settings.logoUrl := by
  cases told : toggles.logo with
  | none =>
    by_cases bare : settings.logoUrl = ""
    · simp [entered, told, bare]
    · simp [entered, onForm, SettingsForm.ofSettings, told, bare]
  | some text =>
    by_cases bare : text = ""
    · simp [entered, told, bare]
    · simp [entered, onForm, told, bare]

/-- What is not told of stands in the form as it was in the settings, and comes back from there. -/
theorem apply_entered (toggles : Toggles) (settings : Settings) :
    (toggles.entered settings).form.apply (toggles.entered settings).settings =
      toggles.replace settings := by
  rw [SettingsForm.apply, logo_entered]
  simp only [entered, onForm, SettingsForm.ofSettings, not_getD_not, replace]

theorem apply_of_not_offered {toggles : Toggles} (refused : ¬ toggles.Offered)
    (settings : Settings) :
    ∃ seconds, toggles.checkinInterval = some seconds ∧
      toggles.apply (.ofSettings settings) = .error (.invalidCheckinInterval seconds) := by
  obtain ⟨seconds, given, failed⟩ := withInterval_of_not_offered refused settings
  refine ⟨seconds, given, ?_⟩
  rw [apply, SettingsView.ofSettings, failed]
  rfl

end Toggles

namespace SettingsCommand

open Program Editor

variable {σ : Type} (answer : (question : Question) → σ → Answer question × σ) (state : σ)

theorem session_eq (command : SettingsCommand) :
    command.session = load.bind fun
      | .error problem => .done (.error (.problem problem))
      | .ok view => act view command := rfl

theorem load_told {settings : Settings} (told : (answer .fetch state).1 = .ok settings) :
    load.exchanges answer state = [⟨.fetch, .ok settings⟩] ∧
      (load.run answer state).value = .ok (.ofSettings settings) := by
  rcases load_talk answer state with ⟨fresh, same, loaded⟩ | ⟨cause, failed, -⟩
  · cases told.symm.trans same
    exact loaded
  · cases told.symm.trans failed

/-- Once the settings are read, what is sent is what the command makes of the view. -/
theorem session_loaded {settings : Settings} (told : (answer .fetch state).1 = .ok settings)
    (command : SettingsCommand) :
    ∃ later, sent (command.session.exchanges answer state) =
        sent ((act (.ofSettings settings) command).exchanges answer later) ∧
      (command.session.run answer state).value =
        ((act (.ofSettings settings) command).run answer later).value := by
  obtain ⟨talk, value⟩ := load_told answer state told
  rw [session_eq, exchanges_bind, value_run_bind, talk, value]
  exact ⟨_, rfl, rfl⟩

theorem act_set {toggles : Toggles} {view edited : SettingsView}
    (applied : toggles.apply view = .ok edited) :
    act view (.set toggles) = (Action.session edited .save).bind fun outcome =>
      .done (finish outcome) := by
  rw [act, applied]
  rfl

theorem sent_set {toggles : Toggles} {view edited : SettingsView}
    (applied : toggles.apply view = .ok edited) :
    sent ((act view (.set toggles)).exchanges answer state) =
      [edited.form.apply edited.settings] := by
  rw [act_set applied, exchanges_bind, sent_append, sent_action]
  rfl

/-- Of the settings that were read, exactly those that are given are sent changed, in one update and
whatever comes of it; with an interval that is not offered nothing is sent. -/
theorem given_replaced (toggles : Toggles) (settings : Settings)
    (told : (answer .fetch state).1 = .ok settings) :
    let command := SettingsCommand.set toggles
    (toggles.Offered →
      sent (command.session.exchanges answer state) = [toggles.replace settings]) ∧
    (¬ toggles.Offered → sent (command.session.exchanges answer state) = [] ∧
      ∃ seconds, toggles.checkinInterval = some seconds ∧
        (command.session.run answer state).value =
          .error (.problem (.invalidCheckinInterval seconds))) := by
  intro command
  obtain ⟨later, talk, value⟩ := session_loaded answer state told command
  rw [talk, value]
  constructor
  · intro offered
    rw [sent_set answer later (Toggles.apply_of_offered offered settings), Toggles.apply_entered]
  · intro refused
    obtain ⟨seconds, given, failed⟩ := Toggles.apply_of_not_offered refused settings
    rw [act, failed]
    exact ⟨rfl, seconds, given, rfl⟩

private def crowded : Settings where
  logoUrl := "https://example.com/logo.png"
  filteredLabels := [⟨"team", "ops"⟩]
  snapshotInterval := "5m"
  allowBindMounts := true
  allowPrivilegedMode := true
  extra := Dict.empty.insert "AuthenticationMethod" (.int 1)

/-- A server that holds the settings, and takes no others. -/
private def holding : Workbench :=
  { server := { stored := crowded, refusesStore := some (.status 500 "status 500") } }

/-- The logo is taken away and a permission with it, and what else there was is sent along, even if
it is then refused; an interval between those that are offered sends nothing. -/
theorem given_replaced_refused :
    let shut : Toggles :=
      { logo := some "", restrictBindMounts := some true, checkinInterval := some 10 }
    let odd : Toggles := { shut with checkinInterval := some 7 }
    (Workbench.answer .fetch holding).1 = .ok crowded ∧ shut.Offered ∧ ¬ odd.Offered ∧
      sent ((SettingsCommand.set shut).session.exchanges Workbench.answer holding) =
        [{ crowded with logoUrl := "", allowBindMounts := false, checkinInterval := 10 }] ∧
      sent ((SettingsCommand.set odd).session.exchanges Workbench.answer holding) = [] := by
  intro shut odd
  have told : (Workbench.answer .fetch holding).1 = .ok crowded := rfl
  have offered : shut.Offered := by
    rintro seconds given
    cases given
    decide
  have refused : ¬ odd.Offered := by
    intro offered
    exact absurd (offered 7 rfl) (by decide)
  refine ⟨told, offered, refused, ?_, ?_⟩
  · exact (given_replaced Workbench.answer holding shut crowded told).1 offered
  · exact ((given_replaced Workbench.answer holding odd crowded told).2 refused).1

end SettingsCommand

end ClusterDesk
