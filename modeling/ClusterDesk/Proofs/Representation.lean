import ClusterDesk.Proofs.Directory
import ClusterDesk.Store
import Mathlib.Data.List.Forall2

/-!
How a store holds a directory: one item for each entry, in the same order, every part of the entry
in a field of the item. Main statements: what is found, replaced or filtered on one side is so on
the other, and every sound store holds a directory.
-/

namespace ClusterDesk.Sessions

open ConfigMap (OwnerApart getD_unlessEmpty_dict getD_unlessEmpty_list ownerLabel)

def labelsOf (item : Manifest Entries) : Dict String := item.metadata.labels.getD Dict.empty

/-- The item is kept for an entry of the directory. -/
structure Keeps (item : Manifest Entries) (entry : Key × Entry) : Prop where
  scope : item.metadata.scope = some entry.1.scope
  name : item.metadata.name = some entry.1.name
  uid : item.metadata.uid = some entry.2.uid
  version : item.metadata.resourceVersion = entry.2.version
  owner : (labelsOf item).find? ownerLabel = entry.2.content.owner
  labels : (labelsOf item).erase ownerLabel = entry.2.labels
  annotations : item.metadata.annotations.getD Dict.empty = entry.2.annotations
  ownerReferences : item.metadata.ownerReferences.getD [] = entry.2.ownerReferences
  finalizers : item.metadata.finalizers.getD [] = entry.2.finalizers
  immutable : item.body.immutable = entry.2.immutable
  data : item.body.data.getD Dict.empty = entry.2.content.data
  binaryData : item.body.binaryData.getD Dict.empty = entry.2.content.binaryData

/-- The config map shows the entry that is kept under the key. -/
structure Shows (key : Key) (entry : Entry) (map : ConfigMap) : Prop where
  scope : map.scope = key.scope
  name : map.name = key.name
  uid : map.id = some entry.uid
  version : map.resourceVersion = entry.version
  owner : map.owner = entry.content.owner
  labels : map.labels = entry.labels
  annotations : map.annotations = entry.annotations
  ownerReferences : map.ownerReferences = entry.ownerReferences
  finalizers : map.finalizers = entry.finalizers
  immutable : map.immutable = entry.immutable
  data : map.data = entry.content.data
  binaryData : map.binaryData = entry.content.binaryData

structure Represents (store : Store Entries) (directory : Directory) : Prop where
  healthy : store.failing = none
  items : List.Forall₂ Keeps store.items directory.entries

/-- Nothing is made to fail, and every item is identified by its namespace and name. -/
structure Sound (store : Store Entries) : Prop where
  healthy : store.failing = none
  identified : ∀ item ∈ store.items, item.metadata.uid.isSome = true ∧
    item.metadata.name.isSome = true ∧ item.metadata.scope.isSome = true
  distinct : (store.items.map fun item => (item.metadata.scope, item.metadata.name)).Nodup

section Items

variable {item : Manifest Entries} {key : Key} {entry : Entry} {map : ConfigMap}

theorem Keeps.shows (keeps : Keeps item (key, entry)) (yaml : Option String) :
    Shows key entry (ConfigMap.ofManifest item yaml) where
  scope := congrArg (Option.getD · "") keeps.scope
  name := congrArg (Option.getD · "") keeps.name
  uid := keeps.uid
  version := keeps.version
  owner := keeps.owner
  labels := keeps.labels
  annotations := keeps.annotations
  ownerReferences := keeps.ownerReferences
  finalizers := keeps.finalizers
  immutable := keeps.immutable
  data := keeps.data
  binaryData := keeps.binaryData

theorem Keeps.matching (keeps : Keeps item (key, entry)) (other : Key) :
    Store.matching other.id item = decide (key = other) := by
  obtain ⟨scope, name⟩ := other
  simp only [Store.matching, Metadata.answersTo, Metadata.anyName, keeps.name, keeps.scope,
    Option.some_or, Option.getD_some, Key.id, ResourceId.namespaced]
  obtain ⟨heldScope, heldName⟩ := key
  by_cases sameName : heldName = name
  · by_cases sameScope : heldScope = scope <;> simp [sameName, sameScope]
  · simp [sameName]

theorem Shows.identity (shown : Shows key entry map) : map.identity = key.id := by
  rw [ConfigMap.identity, shown.scope, shown.name]
  rfl

theorem Shows.editable (shown : Shows key entry map) : map.editable = entry.content := by
  rw [ConfigMap.editable, shown.owner, shown.data, shown.binaryData]

theorem Shows.edit (shown : Shows key entry map) (edits : List ConfigMap.Edit) :
    Shows key (entry.edit edits) (map.edit edits) := by
  rw [ConfigMap.edit_eq, shown.editable]
  exact { shown with owner := rfl, data := rfl, binaryData := rfl }

/-- An update stores all that the config map shows. -/
theorem Shows.keeps (shown : Shows key entry map) (apart : map.OwnerApart) :
    Keeps map.updatePayload (key, entry) where
  scope := congrArg some shown.scope
  name := congrArg some shown.name
  uid := shown.uid
  version := shown.version
  owner := (ConfigMap.owner_updatePayload apart).trans shown.owner
  labels := by
    rw [labelsOf, ConfigMap.labels_updatePayload, ConfigMap.erase_payloadLabels apart,
      shown.labels]
  annotations := (getD_unlessEmpty_dict _).trans shown.annotations
  ownerReferences := (getD_unlessEmpty_list _).trans shown.ownerReferences
  finalizers := (getD_unlessEmpty_list _).trans shown.finalizers
  immutable := shown.immutable
  data := shown.data
  binaryData := (ConfigMap.binaryData_updatePayload map).trans shown.binaryData

theorem admitted_createPayload (count : Nat) (map : ConfigMap) :
    Store.admitted count map.createPayload =
      ConfigMap.updatePayload
        { map with id := some ("uid-" ++ toString count), resourceVersion := some "1" } := rfl

theorem keeps_admitted (count : Nat) (key : Key) (edits : List ConfigMap.Edit) :
    Keeps (Store.admitted count ((ConfigMap.ofId key.id).edit edits).createPayload)
      (key, (Entry.fresh count).edit edits) := by
  let made : ConfigMap :=
    { ConfigMap.ofId key.id with
      id := some ("uid-" ++ toString count), resourceVersion := some "1" }
  have shown : Shows key (.fresh count) made := by constructor <;> rfl
  have apart : made.OwnerApart := ConfigMap.ownerApart_ofId key.id
  have edited := (shown.edit edits).keeps (apart.edit edits)
  rw [admitted_createPayload]
  rw [ConfigMap.edit_eq] at edited ⊢
  exact edited

end Items

section Lists

variable {items : List (Manifest Entries)} {entries : List (Key × Entry)}

theorem found_items (kept : List.Forall₂ Keeps items entries) (key : Key) :
    (items.find? (Store.matching key.id) = none ∧ OrderedMap.lookup key entries = none) ∨
      ∃ item entry, items.find? (Store.matching key.id) = some item ∧
        OrderedMap.lookup key entries = some entry ∧ Keeps item (key, entry) := by
  induction kept with
  | nil => exact .inl ⟨rfl, rfl⟩
  | @cons item entry items entries first rest ih =>
    obtain ⟨other, value⟩ := entry
    have hit := first.matching key
    by_cases same : other = key
    · subst same
      rw [decide_eq_true rfl] at hit
      refine .inr ⟨item, value, ?_, ?_, first⟩
      · rw [List.find?_cons, hit]
      · rw [OrderedMap.lookup, if_pos rfl]
    · rw [decide_eq_false same] at hit
      rw [List.find?_cons, hit, OrderedMap.lookup, if_neg same]
      exact ih

theorem replaced_items (kept : List.Forall₂ Keeps items entries) {key : Key} {old new : Entry}
    {payload : Manifest Entries} (found : OrderedMap.lookup key entries = some old)
    (keeps : Keeps payload (key, new)) :
    ∃ replaced, Store.replaceFirst key.id payload items = some replaced ∧
      List.Forall₂ Keeps replaced (OrderedMap.placed key new entries) := by
  induction kept with
  | nil => cases found
  | @cons item entry items entries first rest ih =>
    obtain ⟨other, value⟩ := entry
    have hit := first.matching key
    by_cases same : other = key
    · subst same
      rw [decide_eq_true rfl] at hit
      refine ⟨payload :: items, ?_, ?_⟩
      · rw [Store.replaceFirst, if_pos hit]
      · rw [OrderedMap.placed, if_pos rfl]
        exact .cons keeps rest
    · rw [decide_eq_false same] at hit
      rw [OrderedMap.lookup, if_neg same] at found
      obtain ⟨replaced, done, related⟩ := ih found
      refine ⟨item :: replaced, ?_, ?_⟩
      · rw [Store.replaceFirst, hit, if_neg Bool.false_ne_true, done]
        rfl
      · rw [OrderedMap.placed, if_neg same]
        exact .cons first related

theorem filtered_items (kept : List.Forall₂ Keeps items entries)
    (wanted : Manifest Entries → Bool) (chosen : Key × Entry → Bool)
    (same : ∀ item entry, Keeps item entry → wanted item = chosen entry) :
    List.Forall₂ Keeps (items.filter wanted) (entries.filter chosen) := by
  refine List.rel_filter ?_ kept
  intro item entry keeps
  exact iff_of_eq (congrArg (· = true) (same item entry keeps))

end Lists

section Start

variable {store : Store Entries}

def entryOf (item : Manifest Entries) : Key × Entry :=
  (⟨item.metadata.scope.getD "", item.metadata.name.getD ""⟩,
    { uid := item.metadata.uid.getD ""
      version := item.metadata.resourceVersion
      labels := (labelsOf item).erase ownerLabel
      annotations := item.metadata.annotations.getD Dict.empty
      ownerReferences := item.metadata.ownerReferences.getD []
      finalizers := item.metadata.finalizers.getD []
      immutable := item.body.immutable
      content :=
        { owner := (labelsOf item).find? ownerLabel
          data := item.body.data.getD Dict.empty
          binaryData := item.body.binaryData.getD Dict.empty } })

theorem keeps_entryOf (sound : Sound store) {item : Manifest Entries}
    (member : item ∈ store.items) : Keeps item (entryOf item) := by
  have given {field : Option String} (isSome : field.isSome = true) :
      field = some (field.getD "") := by
    obtain ⟨text, rfl⟩ := Option.isSome_iff_exists.mp isSome
    rfl
  obtain ⟨uid, name, scope⟩ := sound.identified item member
  constructor
  case scope => exact given scope
  case name => exact given name
  case uid => exact given uid
  all_goals rfl

def directoryOf (store : Store Entries) (sound : Sound store) : Directory where
  entries := store.items.map entryOf
  distinct := by
    -- Namespace and name of an identified item are those of its key, wrapped once more.
    have named : (store.items.map fun item => (item.metadata.scope, item.metadata.name)) =
        ((store.items.map entryOf).map (·.1)).map fun key => (some key.scope, some key.name) := by
      rw [List.map_map, List.map_map]
      refine List.map_congr_left fun item member => ?_
      have keeps := keeps_entryOf sound member
      exact Prod.ext keeps.scope keeps.name
    have distinct := sound.distinct
    rw [named] at distinct
    exact distinct.of_map

theorem represents_directoryOf (sound : Sound store) :
    Represents store (directoryOf store sound) where
  healthy := sound.healthy
  items := List.forall₂_map_right_iff.mpr
    (List.forall₂_same.mpr fun _ member => keeps_entryOf sound member)

end Start

end ClusterDesk.Sessions
