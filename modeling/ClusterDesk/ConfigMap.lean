import ClusterDesk.Manifest.Wire
import ClusterDesk.Service

/-!
Config maps as they are edited: entries of text and of bytes, the application that owns them, and
metadata which is kept untouched. The owner is stored as a label.
-/

namespace ClusterDesk

structure ConfigMap where
  /-- Given by the backend; none until the config map is created. -/
  id : Option String := none
  name : String := ""
  /-- The namespace. -/
  scope : String := ""
  yaml : String := ""
  owner : Option String := none
  creationDate : Option Instant := none
  resourceVersion : Option String := none
  /-- Labels other than the one that names the owner. -/
  labels : Dict String := Dict.empty
  annotations : Dict String := Dict.empty
  ownerReferences : List OwnerReference := []
  finalizers : List String := []
  immutable : Option Bool := none
  data : Dict String := Dict.empty
  binaryData : Dict (List UInt8) := Dict.empty
  deriving DecidableEq, Inhabited

namespace ConfigMap

def ownerLabel : String := "kubedeck.io/configuration-owner"

def identity (map : ConfigMap) : ResourceId := .namespaced map.scope map.name

def hasEntry (map : ConfigMap) (key : String) : Bool :=
  map.data.contains key || map.binaryData.contains key

/-- Makes `key` a text entry, and tells the text that it had; of bytes it had nothing is told. -/
def putEntry (map : ConfigMap) (key value : String) : Option String × ConfigMap :=
  (map.data.find? key,
    { map with data := map.data.insert key value, binaryData := map.binaryData.erase key })

/-- Takes the entry away, and tells whether there was one. -/
def dropEntry (map : ConfigMap) (key : String) : Bool × ConfigMap :=
  (map.hasEntry key,
    { map with data := map.data.erase key, binaryData := map.binaryData.erase key })

def setEntry (map : ConfigMap) (key value : String) : ConfigMap := (map.putEntry key value).2

def removeEntry (map : ConfigMap) (key : String) : ConfigMap := (map.dropEntry key).2

def entryCount (map : ConfigMap) : Nat := map.data.size + map.binaryData.size

/-- One change made to a config map. -/
inductive Edit where
  | set (key value : String)
  | remove (key : String)
  | own (owner : Option String)
  deriving DecidableEq, Repr

def Edit.apply : Edit → ConfigMap → ConfigMap
  | set key value, map => map.setEntry key value
  | remove key, map => map.removeEntry key
  | own owner, map => { map with owner }

def edit (map : ConfigMap) (edits : List Edit) : ConfigMap :=
  edits.foldl (fun map edit => edit.apply map) map

/-- The value, or nothing when it is empty. -/
def unlessEmpty {α : Type} (isEmpty : α → Bool) (value : α) : Option α :=
  if isEmpty value then none else some value

def ofManifest (manifest : Manifest Entries) (yaml : Option String) : ConfigMap :=
  let metadata := manifest.metadata
  let labels := metadata.labels.getD Dict.empty
  { id := metadata.uid
    name := metadata.name.getD ""
    scope := metadata.scope.getD ""
    yaml := yaml.getD manifest.yaml
    owner := labels.find? ownerLabel
    creationDate := metadata.creationTimestamp
    resourceVersion := metadata.resourceVersion
    labels := labels.erase ownerLabel
    annotations := metadata.annotations.getD Dict.empty
    ownerReferences := metadata.ownerReferences.getD []
    finalizers := metadata.finalizers.getD []
    immutable := manifest.body.immutable
    data := manifest.body.data.getD Dict.empty
    binaryData := manifest.body.binaryData.getD Dict.empty }

def ofId (id : ResourceId) : ConfigMap := { name := id.name, scope := id.scope.getD "" }

def payloadLabels (map : ConfigMap) : Dict String :=
  match map.owner with
  | some owner => map.labels.insert ownerLabel owner
  | none => map.labels

def payloadMetadata (map : ConfigMap) : Metadata where
  name := some map.name
  scope := some map.scope
  labels := unlessEmpty Dict.isEmpty map.payloadLabels
  annotations := unlessEmpty Dict.isEmpty map.annotations
  ownerReferences := unlessEmpty List.isEmpty map.ownerReferences
  finalizers := unlessEmpty List.isEmpty map.finalizers

def payloadEntries (map : ConfigMap) : Entries where
  immutable := map.immutable
  data := some map.data
  binaryData := unlessEmpty Dict.isEmpty map.binaryData

def createPayload (map : ConfigMap) : Manifest Entries := ⟨map.payloadMetadata, map.payloadEntries⟩

/-- An update replaces the whole config map, and only in the version that was read. -/
def updatePayload (map : ConfigMap) : Manifest Entries :=
  ⟨{ map.payloadMetadata with uid := map.id, resourceVersion := map.resourceVersion },
    map.payloadEntries⟩

def converter : Converter (Manifest Entries) String ConfigMap where
  messages :=
    { get := "Unable to retrieve config map"
      list := "Unable to retrieve config maps"
      create := "Unable to create config map"
      update := "Unable to update config map"
      delete := "Unable to delete config map" }
  toModel := ofManifest
  defaultModel := ofId
  createPayload := createPayload
  updatePayload := updatePayload
  identity := identity
  isPersisted map := map.id.isSome

end ConfigMap

end ClusterDesk
