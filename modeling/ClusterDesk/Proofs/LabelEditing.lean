import ClusterDesk.Proofs.Agreement

/-!
Labels added and removed one after another through one view. Whatever else the form of the view has
been filled in with, each deed writes the settings of the view with one label more or less, and what
is left of it is in step with the server again, also when the file of the application state cannot
be written. Main statement: `labels_edited_exactly`.
-/

namespace ClusterDesk.Editor

open Program

inductive Labelling where
  /-- Enters anything in the form. -/
  | fill (form : SettingsForm)
  /-- Enters a label in the form, whatever else there is in it, and adds the label. -/
  | add (name value : String)
  | remove (index : Nat)
  deriving DecidableEq

namespace Labelling

def events (view : SettingsView) : Labelling → List Event
  | fill form => [.fill form]
  | add name value =>
    [.fill { view.form with labelName := name, labelValue := value }, .act .addLabel]
  | remove index => [.act (.removeLabel index)]

/-- What becomes of a list of labels. -/
def relabel : Labelling → List FilteredLabel → List FilteredLabel
  | fill _, labels => labels
  | add name value, labels => labels ++ [⟨name, value⟩]
  | remove index, labels => labels.take index ++ labels.drop (index + 1)

end Labelling

def Desk.label (desk : Desk) (deed : Labelling) : Desk := desk.run (deed.events desk.view)

/-- A view with the settings of a server that answers and keeps what it is sent. -/
structure InStep (settings : Settings) (desk : Desk) : Prop where
  readable : desk.bench.server.refusesFetch = none
  takes : desk.bench.server.refusesStore = none
  faithful : desk.bench.normalize = id
  stored : desk.bench.server.stored = settings
  shown : desk.view.settings = settings

section Steps

variable {settings : Settings} {desk : Desk}

/-- A write brings the view in step with the server, whether or not the application state gets to
its file. -/
theorem InStep.write (inStep : InStep settings desk) (view : SettingsView) :
    InStep view.settings
      ⟨((Editor.write view).run Workbench.answer desk.bench).state,
        ((Editor.write view).run Workbench.answer desk.bench).value.2⟩ := by
  obtain ⟨readable, takes, faithful, -, -⟩ := inStep
  cases flushed : (holding desk.bench.store view.settings).flush desk.bench.disk with
  | ok disk =>
    obtain ⟨value, state⟩ := write_taken desk.bench view readable faithful takes flushed
    rw [value, state]
    exact ⟨readable, takes, faithful, rfl, rfl⟩
  | error problem =>
    -- The view is not replaced, but it has been edited to what the server holds by now.
    let taken := { desk.bench with server := taking desk.bench.server view.settings }
    obtain ⟨value, state⟩ := write_stored desk.bench view faithful takes
    obtain ⟨kept, left⟩ := refresh_unflushed taken view view.settings flushed
    rw [value.trans kept, state.trans left]
    exact ⟨readable, takes, faithful, rfl, rfl⟩

theorem InStep.fill (inStep : InStep settings desk) (form : SettingsForm) :
    InStep settings (desk.step (.fill form)) := { inStep with }

theorem InStep.addLabel (inStep : InStep settings desk) :
    InStep { settings with
        filteredLabels := settings.filteredLabels ++ [desk.view.form.filteredLabel] }
      (desk.act .addLabel).2 := by
  have shown := inStep.shown
  subst shown
  exact inStep.write
    (withLabels desk.view (desk.view.settings.filteredLabels ++ [desk.view.form.filteredLabel]))

theorem act_removeLabel_outside {index : Nat}
    (outside : ¬ index < desk.view.settings.filteredLabels.length) :
    desk.act (.removeLabel index) = (.error (.noSuchLabel index), desk) := by
  unfold Desk.act
  rw [removeLabel_session_outside outside]
  rfl

theorem InStep.removeLabel (inStep : InStep settings desk) (index : Nat) :
    InStep { settings with
        filteredLabels := settings.filteredLabels.take index ++
          settings.filteredLabels.drop (index + 1) }
      (desk.act (.removeLabel index)).2 := by
  have shown := inStep.shown
  subst shown
  rw [← List.eraseIdx_eq_take_drop_succ]
  by_cases inside : index < desk.view.settings.filteredLabels.length
  · have written := inStep.write
      (withLabels desk.view (desk.view.settings.filteredLabels.eraseIdx index))
    unfold Desk.act
    rw [removeLabel_session_inside inside]
    exact written
  · rw [act_removeLabel_outside inside, List.eraseIdx_of_length_le (Nat.not_lt.mp inside)]
    exact inStep

theorem InStep.label (inStep : InStep settings desk) (deed : Labelling) :
    InStep { settings with filteredLabels := deed.relabel settings.filteredLabels }
      (desk.label deed) := by
  cases deed with
  | fill form => exact inStep.fill form
  | add name value =>
    exact (inStep.fill { desk.view.form with labelName := name, labelValue := value }).addLabel
  | remove index => exact inStep.removeLabel index

theorem InStep.run (inStep : InStep settings desk) (deeds : List Labelling) :
    InStep { settings with
        filteredLabels := deeds.foldl (fun labels deed => deed.relabel labels)
          settings.filteredLabels }
      (deeds.foldl Desk.label desk) := by
  induction deeds generalizing settings desk with
  | nil => exact inStep
  | cons deed rest ih => exact ih (inStep.label deed)

end Steps

/-- The desk of a user who has loaded the settings. -/
def Desk.opened (settings : Settings) (store : StateStore) (disk : Disk) (view : SettingsView) :
    Desk := (Desk.start settings store disk view).step (.act .load)

theorem inStep_opened (settings : Settings) (store : StateStore) (disk : Disk)
    (view : SettingsView) : InStep settings (.opened settings store disk view) :=
  ⟨rfl, rfl, rfl, rfl, rfl⟩

/-- After any deeds, the settings of the server are those that were loaded with each added label put
behind the others and each label that was there to be removed taken out of its place. A removal from
beyond the last label tells its index and leaves everything as it is. -/
theorem labels_edited_exactly (settings : Settings) (store : StateStore) (disk : Disk)
    (view : SettingsView) (deeds : List Labelling) :
    let desk := deeds.foldl Desk.label (.opened settings store disk view)
    let labels := deeds.foldl (fun labels deed => deed.relabel labels) settings.filteredLabels
    desk.bench.server.stored = { settings with filteredLabels := labels } ∧
      ∀ index, labels.length ≤ index →
        desk.act (.removeLabel index) = (.error (.noSuchLabel index), desk) := by
  intro desk labels
  have inStep : InStep { settings with filteredLabels := labels } desk :=
    (inStep_opened settings store disk view).run deeds
  refine ⟨inStep.stored, fun index beyond => act_removeLabel_outside ?_⟩
  rw [inStep.shown]
  exact Nat.not_lt.mpr beyond

private def doubled : Settings where
  filteredLabels := [⟨"team", "ops"⟩, ⟨"team", "ops"⟩]
  snapshotInterval := "5m"

/-- A switch that is turned in the form and not saved, one more label of the same name, the first of
all taken out, and one that is not there. -/
private def deeds : List Labelling :=
  [.fill { enableTelemetry := true, customLogo := true }, .add "team" "ops", .fill {},
    .add "tier" "", .remove 0, .remove 3]

/-- There is no folder for its file. -/
private def homeless : StateStore := { path := some "missing/state.json" }

/-- Each addition and the removal fail half way, after the server has stored the labels. -/
theorem labels_edited_exactly_unwritten :
    homeless.flush {} = .error (.disk "missing/state.json" .notFound) ∧
      (deeds.foldl Desk.label (.opened doubled homeless {} {})).bench.server.stored =
        { doubled with filteredLabels := [⟨"team", "ops"⟩, ⟨"team", "ops"⟩, ⟨"tier", ""⟩] } ∧
      3 ≤ 3 ∧
      (deeds.foldl Desk.label (.opened doubled homeless {} {})).act (.removeLabel 3) =
        (.error (.noSuchLabel 3), deeds.foldl Desk.label (.opened doubled homeless {} {})) := by
  have left : deeds.foldl (fun labels deed => deed.relabel labels) doubled.filteredLabels =
      [⟨"team", "ops"⟩, ⟨"team", "ops"⟩, ⟨"tier", ""⟩] := rfl
  obtain ⟨stored, beyond⟩ := labels_edited_exactly doubled homeless {} {} deeds
  rw [left] at stored beyond
  exact ⟨rfl, stored, le_refl 3, beyond 3 (le_refl 3)⟩

end ClusterDesk.Editor
