import ClusterDesk.ConfigMap

/-!
Namespaces, and the names among them that are reserved for the system.
-/

namespace ClusterDesk

/-- Whether a namespace belongs to the system or to its users. -/
inductive Standing where
  | system | user
  deriving DecidableEq, Repr

def Standing.name : Standing → String
  | system => "system"
  | user => "user"

/-- The reserved names. -/
structure Reserved where
  names : List String
  deriving DecidableEq, Repr

namespace Reserved

def usual : List String := ["kube-system", "kube-public", "kube-node-lease"]

def isSystem (reserved : Reserved) (name : String) : Bool := reserved.names.contains name

def classify (reserved : Reserved) (name : String) : Standing :=
  if reserved.isSystem name then .system else .user

end Reserved

structure Namespace where
  id : Option String := none
  name : String := ""
  /-- The phase that the cluster reports. -/
  status : Option String := none
  creationDate : Option Instant := none
  resourceVersion : Option String := none
  labels : Dict String := Dict.empty
  annotations : Dict String := Dict.empty
  ownerReferences : List OwnerReference := []
  finalizers : List String := []
  /-- What has to be done before the namespace goes away. -/
  specFinalizers : Option (List String) := none
  yaml : String := ""
  isSystem : Bool := false
  deriving DecidableEq, Inhabited

namespace Namespace

open ConfigMap (unlessEmpty)

def identity (space : Namespace) : ResourceId := .cluster space.name

def ofManifest (reserved : Reserved) (manifest : Manifest LifeCycle) (yaml : Option String) :
    Namespace :=
  let metadata := manifest.metadata
  let name := metadata.name.getD ""
  { id := metadata.uid
    name := name
    status := manifest.body.status.bind (·.2)
    creationDate := metadata.creationTimestamp
    resourceVersion := metadata.resourceVersion
    labels := metadata.labels.getD Dict.empty
    annotations := metadata.annotations.getD Dict.empty
    ownerReferences := metadata.ownerReferences.getD []
    finalizers := metadata.finalizers.getD []
    specFinalizers := manifest.body.spec.join
    yaml := yaml.getD manifest.yaml
    isSystem := reserved.isSystem name }

def ofId (reserved : Reserved) (id : ResourceId) : Namespace :=
  { name := id.name, isSystem := reserved.isSystem id.name }

def payloadMetadata (space : Namespace) : Metadata where
  name := some space.name
  labels := unlessEmpty Dict.isEmpty space.labels
  annotations := unlessEmpty Dict.isEmpty space.annotations
  ownerReferences := unlessEmpty List.isEmpty space.ownerReferences
  finalizers := unlessEmpty List.isEmpty space.finalizers

def payloadBody (space : Namespace) : LifeCycle where
  spec := space.specFinalizers.map some
  status := none

def createPayload (space : Namespace) : Manifest LifeCycle :=
  ⟨space.payloadMetadata, space.payloadBody⟩

/-- An update replaces the whole namespace, and only in the version that was read. -/
def updatePayload (space : Namespace) : Manifest LifeCycle :=
  ⟨{ space.payloadMetadata with uid := space.id, resourceVersion := space.resourceVersion },
    space.payloadBody⟩

def converter (reserved : Reserved) : Converter (Manifest LifeCycle) String Namespace where
  messages :=
    { get := "Unable to retrieve namespace"
      list := "Unable to retrieve namespaces"
      create := "Unable to create namespace"
      update := "Unable to update namespace"
      delete := "Unable to delete namespace" }
  toModel := ofManifest reserved
  defaultModel := ofId reserved
  createPayload := createPayload
  updatePayload := updatePayload
  identity := identity
  isPersisted space := space.id.isSome

end Namespace

end ClusterDesk
