import ClusterDesk.Settings.Form

/-!
The form as a view of the settings. It shows ten permissions, six of them as what users are kept
from, and of the logo only whether there is one; a label that is being entered is in the form alone.
Main statement: `form_views_settings`: what a form is taken from it puts back, what it puts it is
read as, and putting it again changes nothing.
-/

namespace ClusterDesk.SettingsForm

/-- What stays of the settings whatever the form says; the logo can only be taken away. -/
structure Spared (before after : Settings) : Prop where
  filteredLabels : after.filteredLabels = before.filteredLabels
  snapshotInterval : after.snapshotInterval = before.snapshotInterval
  checkinInterval : after.checkinInterval = before.checkinInterval
  extra : after.extra = before.extra
  logo : after.logoUrl = before.logoUrl ∨ after.logoUrl = ""

theorem spared_apply (form : SettingsForm) (settings : Settings) :
    Spared settings (form.apply settings) where
  filteredLabels := rfl
  snapshotInterval := rfl
  checkinInterval := rfl
  extra := rfl
  logo := by
    rw [apply]
    split
    · exact .inl rfl
    · exact .inr rfl

theorem apply_ofSettings (settings : Settings) :
    (ofSettings settings).apply settings = settings := by
  have logo : (if (ofSettings settings).customLogo then settings.logoUrl else "") =
      settings.logoUrl := by
    by_cases bare : settings.logoUrl = ""
    · simp [ofSettings, bare]
    · simp [ofSettings, bare]
  rw [apply, logo]
  simp only [ofSettings, Bool.not_not]

/-- Only a logo that there is can be shown as kept, and no label is being entered. -/
theorem ofSettings_apply (form : SettingsForm) (settings : Settings) :
    ofSettings (form.apply settings) =
      { form with
        customLogo := form.customLogo && settings.logoUrl ≠ ""
        labelName := ""
        labelValue := "" } := by
  have logo : decide ((form.apply settings).logoUrl ≠ "") =
      (form.customLogo && settings.logoUrl ≠ "") := by
    cases kept : form.customLogo <;> simp [apply, kept]
  rw [ofSettings, logo]
  simp only [apply, Bool.not_not]

/-- Of two forms the later one prevails, but for a logo that the earlier one took away. -/
theorem apply_apply (first second : SettingsForm) (settings : Settings) :
    second.apply (first.apply settings) =
      { second with customLogo := first.customLogo && second.customLogo }.apply settings := by
  cases one : first.customLogo <;> cases two : second.customLogo <;> simp [apply, one, two]

theorem apply_again (form : SettingsForm) (settings : Settings) :
    form.apply (form.apply settings) = form.apply settings := by
  rw [apply_apply, Bool.and_self]

/-- The form of some settings changes nothing in them. A form that is applied is shown as it is,
without the label and with no more of a logo than there was; applied again it does nothing, and what
it does not show it leaves as it is. -/
theorem form_views_settings (settings : Settings) (form : SettingsForm) :
    (ofSettings settings).apply settings = settings ∧
      ofSettings (form.apply settings) =
        { form with
          customLogo := form.customLogo && settings.logoUrl ≠ ""
          labelName := ""
          labelValue := "" } ∧
      form.apply (form.apply settings) = form.apply settings ∧
      Spared settings (form.apply settings) :=
  ⟨apply_ofSettings settings, ofSettings_apply form settings, apply_again form settings,
    spared_apply form settings⟩

end ClusterDesk.SettingsForm
