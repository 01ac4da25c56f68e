import ClusterDesk.ConfigMap

/-!
Edits of config maps and what a payload carries of them. Main statements: edits change nothing but
the owner and the entries; a payload, read back, is the config map that it was made of, apart from
what only the backend gives.
-/

namespace ClusterDesk.ConfigMap

def Edit.key? : Edit → Option String
  | set key _ => some key
  | remove key => some key
  | own _ => none

/-- What edits can change. -/
structure Editable where
  owner : Option String := none
  data : Dict String := Dict.empty
  binaryData : Dict (List UInt8) := Dict.empty
  deriving DecidableEq, Inhabited

namespace Editable

def apply (content : Editable) : Edit → Editable
  | .set key value =>
    { content with
      data := content.data.insert key value, binaryData := content.binaryData.erase key }
  | .remove key =>
    { content with data := content.data.erase key, binaryData := content.binaryData.erase key }
  | .own owner => { content with owner }

def edit (content : Editable) (edits : List Edit) : Editable := edits.foldl apply content

theorem edit_append (content : Editable) (first second : List Edit) :
    content.edit (first ++ second) = (content.edit first).edit second :=
  List.foldl_append

theorem owner_edit (content : Editable) (edits : List Edit)
    (unassigned : ∀ owner, .own owner ∉ edits) : (content.edit edits).owner = content.owner := by
  induction edits generalizing content with
  | nil => rfl
  | cons edit rest ih =>
    have later := ih (content.apply edit) fun owner member =>
      unassigned owner (List.mem_cons_of_mem _ member)
    refine later.trans ?_
    cases edit with
    | set key value => rfl
    | remove key => rfl
    | own owner => exact absurd List.mem_cons_self (unassigned owner)

theorem find?_apply (content : Editable) (edit : Edit) (key : String)
    (unnamed : edit.key? ≠ some key) :
    (content.apply edit).data.find? key = content.data.find? key ∧
      (content.apply edit).binaryData.find? key = content.binaryData.find? key := by
  cases edit with
  | set named value =>
    have other : named ≠ key := fun same => unnamed (congrArg some same)
    refine ⟨?_, ?_⟩
    · simp only [apply, Dict.find?_insert, if_neg other]
    · simp only [apply, Dict.find?_erase, if_neg (Ne.symm other)]
  | remove named =>
    have other : key ≠ named := fun same => unnamed (congrArg some same.symm)
    simp only [apply, Dict.find?_erase, if_neg other, and_self]
  | own owner => exact ⟨rfl, rfl⟩

end Editable

def editable (map : ConfigMap) : Editable := ⟨map.owner, map.data, map.binaryData⟩

def withEditable (map : ConfigMap) (content : Editable) : ConfigMap :=
  { map with owner := content.owner, data := content.data, binaryData := content.binaryData }

@[simp] theorem editable_withEditable (map : ConfigMap) (content : Editable) :
    (map.withEditable content).editable = content := rfl

/-- Edits change what is editable and nothing else. -/
theorem edit_eq (map : ConfigMap) (edits : List Edit) :
    map.edit edits = map.withEditable (map.editable.edit edits) := by
  induction edits generalizing map with
  | nil => rfl
  | cons edit rest ih =>
    have first : edit.apply map = map.withEditable (map.editable.apply edit) := by
      cases edit <;> rfl
    calc map.edit (edit :: rest) = (edit.apply map).edit rest := rfl
      _ = (edit.apply map).withEditable ((edit.apply map).editable.edit rest) := ih _
      _ = map.withEditable (map.editable.edit (edit :: rest)) := by rw [first]; rfl

theorem editable_edit (map : ConfigMap) (edits : List Edit) :
    (map.edit edits).editable = map.editable.edit edits := by
  rw [edit_eq, editable_withEditable]

section Payloads

variable {α : Type}

@[simp] theorem getD_unlessEmpty_dict (dict : Dict α) :
    (unlessEmpty Dict.isEmpty dict).getD Dict.empty = dict := by
  unfold unlessEmpty
  split
  · rename_i empty
    have bare : dict.entries = [] := List.isEmpty_iff.mp empty
    refine Dict.ext fun key => ?_
    rw [Dict.find?, Dict.find?, bare]
    rfl
  · rfl

@[simp] theorem getD_unlessEmpty_list (list : List α) :
    (unlessEmpty List.isEmpty list).getD [] = list := by
  cases list <;> rfl

/-- The label of the owner is not among the others. -/
def OwnerApart (map : ConfigMap) : Prop := map.labels.find? ownerLabel = none

theorem ownerApart_ofManifest (raw : Manifest Entries) (yaml : Option String) :
    (ofManifest raw yaml).OwnerApart := by
  simp only [OwnerApart, ofManifest, Dict.find?_erase, if_true]

theorem ownerApart_ofId (id : ResourceId) : (ofId id).OwnerApart := rfl

theorem OwnerApart.edit {map : ConfigMap} (apart : map.OwnerApart) (edits : List Edit) :
    (map.edit edits).OwnerApart := by
  rw [edit_eq]
  exact apart

theorem find?_payloadLabels {map : ConfigMap} (apart : map.OwnerApart) (label : String) :
    map.payloadLabels.find? label =
      if label = ownerLabel then map.owner else map.labels.find? label := by
  unfold payloadLabels
  by_cases same : label = ownerLabel
  · subst same
    cases map.owner with
    | none => exact apart
    | some owner => simp only [Dict.find?_insert_self, if_true]
  · cases map.owner with
    | none => rw [if_neg same]
    | some owner => rw [Dict.find?_insert, if_neg (Ne.symm same), if_neg same]

theorem find?_labels_ofManifest (raw : Manifest Entries) (yaml : Option String) (label : String) :
    (raw.metadata.labels.getD Dict.empty).find? label =
      if label = ownerLabel then (ofManifest raw yaml).owner
      else (ofManifest raw yaml).labels.find? label := by
  by_cases same : label = ownerLabel
  · subst same
    rw [if_pos rfl]
    rfl
  · simp only [ofManifest, Dict.find?_erase, if_neg same]

theorem erase_payloadLabels {map : ConfigMap} (apart : map.OwnerApart) :
    map.payloadLabels.erase ownerLabel = map.labels := by
  refine Dict.ext fun label => ?_
  rw [Dict.find?_erase, find?_payloadLabels apart]
  by_cases same : label = ownerLabel
  · rw [if_pos same, same]
    exact apart.symm
  · rw [if_neg same, if_neg same]

theorem labels_updatePayload (map : ConfigMap) :
    map.updatePayload.metadata.labels.getD Dict.empty = map.payloadLabels :=
  getD_unlessEmpty_dict _

theorem owner_updatePayload {map : ConfigMap} (apart : map.OwnerApart) :
    (map.updatePayload.metadata.labels.getD Dict.empty).find? ownerLabel = map.owner := by
  rw [labels_updatePayload, find?_payloadLabels apart, if_pos rfl]

theorem binaryData_updatePayload (map : ConfigMap) :
    map.updatePayload.body.binaryData.getD Dict.empty = map.binaryData :=
  getD_unlessEmpty_dict _

/-- An update, read back, has everything that was sent. -/
theorem ofManifest_updatePayload {map : ConfigMap} (apart : map.OwnerApart)
    (yaml : Option String) :
    ofManifest map.updatePayload yaml =
      { map with yaml := yaml.getD map.updatePayload.yaml, creationDate := none } := by
  have owner : map.payloadLabels.find? ownerLabel = map.owner := by
    rw [find?_payloadLabels apart, if_pos rfl]
  simp only [ofManifest, updatePayload, payloadMetadata, payloadEntries, getD_unlessEmpty_dict,
    getD_unlessEmpty_list, Option.getD_some, owner, erase_payloadLabels apart]

end Payloads

end ClusterDesk.ConfigMap
