import ClusterDesk.Instant
import ClusterDesk.Json
import ClusterDesk.ResourceId

/-!
Resources as the cluster keeps them: metadata common to all kinds, and a body that is particular
to the kind.
-/

namespace ClusterDesk

structure OwnerReference where
  apiVersion : String
  blockOwnerDeletion : Option Bool
  controller : Option Bool
  kind : String
  name : String
  uid : String
  deriving DecidableEq, Repr, Inhabited

/-- Which fields a manager has set. -/
structure ManagedFields where
  apiVersion : Option String
  fieldsType : Option String
  fields : Option Json
  manager : Option String
  operation : Option String
  subresource : Option String
  time : Option Instant
  deriving DecidableEq, Inhabited

structure Metadata where
  annotations : Option (Dict String) := none
  creationTimestamp : Option Instant := none
  deletionGracePeriodSeconds : Option Int := none
  deletionTimestamp : Option Instant := none
  finalizers : Option (List String) := none
  generateName : Option String := none
  generation : Option Int := none
  labels : Option (Dict String) := none
  managedFields : Option (List ManagedFields) := none
  name : Option String := none
  /-- The namespace. -/
  scope : Option String := none
  ownerReferences : Option (List OwnerReference) := none
  resourceVersion : Option String := none
  selfLink : Option String := none
  uid : Option String := none
  deriving DecidableEq, Inhabited

structure Manifest (Body : Type) where
  metadata : Metadata
  body : Body
  deriving DecidableEq, Inhabited

namespace Metadata

/-- The name, or else the name to generate one from. -/
def anyName (metadata : Metadata) : String :=
  (metadata.name.or metadata.generateName).getD ""

def answersTo (metadata : Metadata) (id : ResourceId) : Bool :=
  metadata.anyName = id.name && metadata.scope = id.scope

end Metadata

/-- The data of a config map, apart from its metadata. -/
structure Entries where
  binaryData : Option (Dict (List UInt8)) := none
  data : Option (Dict String) := none
  immutable : Option Bool := none
  deriving DecidableEq, Inhabited

structure Condition where
  lastTransitionTime : Option Instant
  message : Option String
  reason : Option String
  status : String
  type : String
  deriving DecidableEq, Repr, Inhabited

/-- The life cycle of a namespace, apart from its metadata: the finalizers of its specification,
and its conditions and phase. -/
structure LifeCycle where
  spec : Option (Option (List String)) := none
  status : Option (Option (List Condition) × Option String) := none
  deriving DecidableEq, Inhabited

end ClusterDesk
