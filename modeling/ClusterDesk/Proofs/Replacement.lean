import ClusterDesk.Namespace
import ClusterDesk.Proofs.EntryHistory

/-!
Updates replace a resource as a whole, so all that was not edited has to come back. Main statement:
`replacement_keeps_rest`, for config maps after any edits and for namespaces. A list or map that is
left out counts as an empty one.
-/

namespace ClusterDesk.Replacement

open ConfigMap (Edit ownerLabel OwnerApart)

/-- What metadata sent in an update keeps of what was read; `untouched` tells the labels that have
to be kept. -/
structure KeepsMetadata (untouched : String → Prop) (raw sent : Metadata) : Prop where
  uid : sent.uid = raw.uid
  resourceVersion : sent.resourceVersion = raw.resourceVersion
  name : raw.name.isSome = true → sent.name = raw.name
  labels : ∀ label, untouched label →
    (sent.labels.getD Dict.empty).find? label = (raw.labels.getD Dict.empty).find? label
  annotations : sent.annotations.getD Dict.empty = raw.annotations.getD Dict.empty
  ownerReferences : sent.ownerReferences.getD [] = raw.ownerReferences.getD []
  finalizers : sent.finalizers.getD [] = raw.finalizers.getD []

structure KeepsMap (edits : List Edit) (raw sent : Manifest Entries) : Prop where
  metadata : KeepsMetadata (fun label => label = ownerLabel → ∀ owner, .own owner ∉ edits)
    raw.metadata sent.metadata
  scope : raw.metadata.scope.isSome = true → sent.metadata.scope = raw.metadata.scope
  immutable : sent.body.immutable = raw.body.immutable
  data : ∀ key, (∀ edit ∈ edits, edit.key? ≠ some key) →
    (sent.body.data.getD Dict.empty).find? key = (raw.body.data.getD Dict.empty).find? key
  binaryData : ∀ key, (∀ edit ∈ edits, edit.key? ≠ some key) →
    (sent.body.binaryData.getD Dict.empty).find? key =
      (raw.body.binaryData.getD Dict.empty).find? key

structure KeepsSpace (raw sent : Manifest LifeCycle) : Prop where
  metadata : KeepsMetadata (fun _ => True) raw.metadata sent.metadata
  specFinalizers : sent.body.spec.join.getD [] = raw.body.spec.join.getD []

private theorem some_getD {text : Option String} (given : text.isSome = true) :
    some (text.getD "") = text := by
  cases text with
  | none => cases given
  | some text => rfl

theorem labels_kept (raw : Manifest Entries) (yaml : Option String) (edits : List Edit)
    (label : String) (untouched : label = ownerLabel → ∀ owner, .own owner ∉ edits) :
    ((ConfigMap.ofManifest raw yaml).edit edits).payloadLabels.find? label =
      (raw.metadata.labels.getD Dict.empty).find? label := by
  have apart := (ConfigMap.ownerApart_ofManifest raw yaml).edit edits
  rw [ConfigMap.find?_payloadLabels apart, ConfigMap.find?_labels_ofManifest raw yaml,
    ConfigMap.edit_eq]
  by_cases same : label = ownerLabel
  · rw [if_pos same, if_pos same]
    exact ConfigMap.Editable.owner_edit _ edits (untouched same)
  · rw [if_neg same, if_neg same]
    rfl

theorem entries_kept (raw : Manifest Entries) (yaml : Option String) (edits : List Edit)
    (key : String) (unnamed : ∀ edit ∈ edits, edit.key? ≠ some key) :
    let map := (ConfigMap.ofManifest raw yaml).edit edits
    map.data.find? key = (raw.body.data.getD Dict.empty).find? key ∧
      map.binaryData.find? key = (raw.body.binaryData.getD Dict.empty).find? key := by
  exact Prod.mk.inj (ConfigMap.held_edit_unnamed (ConfigMap.ofManifest raw yaml)
    (ConfigMap.lastOn_eq_none.mpr unnamed))

theorem keepsMap (raw : Manifest Entries) (yaml : Option String) (edits : List Edit) :
    KeepsMap edits raw ((ConfigMap.ofManifest raw yaml).edit edits).updatePayload := by
  have edited := ConfigMap.edit_eq (ConfigMap.ofManifest raw yaml) edits
  have metadata : KeepsMetadata (fun label => label = ownerLabel → ∀ owner, .own owner ∉ edits)
      raw.metadata ((ConfigMap.ofManifest raw yaml).edit edits).updatePayload.metadata :=
    { uid := by rw [edited]; rfl
      resourceVersion := by rw [edited]; rfl
      name := fun given => by rw [edited]; exact some_getD given
      labels := fun label untouched => by
        rw [← labels_kept raw yaml edits label untouched]
        exact congrArg (Dict.find? · label) (ConfigMap.getD_unlessEmpty_dict _)
      annotations := by rw [edited]; exact ConfigMap.getD_unlessEmpty_dict _
      ownerReferences := by rw [edited]; exact ConfigMap.getD_unlessEmpty_list _
      finalizers := by rw [edited]; exact ConfigMap.getD_unlessEmpty_list _ }
  refine ⟨metadata, ?_, ?_, ?_, ?_⟩
  · intro given
    rw [edited]
    exact some_getD given
  · rw [edited]
    rfl
  · intro key unnamed
    exact (entries_kept raw yaml edits key unnamed).1
  · intro key unnamed
    rw [← (entries_kept raw yaml edits key unnamed).2]
    exact congrArg (Dict.find? · key) (ConfigMap.getD_unlessEmpty_dict _)

theorem keepsSpace (reserved : Reserved) (raw : Manifest LifeCycle) (yaml : Option String) :
    KeepsSpace raw (Namespace.ofManifest reserved raw yaml).updatePayload where
  metadata :=
    { uid := rfl
      resourceVersion := rfl
      name := some_getD
      labels := fun label _ =>
        congrArg (Dict.find? · label) (ConfigMap.getD_unlessEmpty_dict _)
      annotations := ConfigMap.getD_unlessEmpty_dict _
      ownerReferences := ConfigMap.getD_unlessEmpty_list _
      finalizers := ConfigMap.getD_unlessEmpty_list _ }
  specFinalizers := by
    show ((raw.body.spec.join).map some).join.getD [] = raw.body.spec.join.getD []
    cases raw.body.spec.join <;> rfl

/-- An update loses nothing that was not edited. -/
theorem replacement_keeps_rest :
    (∀ (raw : Manifest Entries) (yaml : Option String) (edits : List Edit),
      KeepsMap edits raw ((ConfigMap.ofManifest raw yaml).edit edits).updatePayload) ∧
    ∀ (reserved : Reserved) (raw : Manifest LifeCycle) (yaml : Option String),
      KeepsSpace raw (Namespace.ofManifest reserved raw yaml).updatePayload :=
  ⟨keepsMap, keepsSpace⟩

end ClusterDesk.Replacement
