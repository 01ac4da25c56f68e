import ClusterDesk.Json.Field
import ClusterDesk.Manifest
import ClusterDesk.Text.Base64
import ClusterDesk.Yaml.Printer

/-!
Manifests as JSON and as YAML. Absent fields are not written; in reading, null is absence, unknown
fields are dropped, and a wrong version or kind is an error.
-/

namespace ClusterDesk

/-- What is particular to a kind of resource: its names, and the JSON members of its body. -/
class Kind (Body : Type) where
  name : String
  plural : String
  write : Body → List (String × Json)
  read : List (String × Json) → Option Body

namespace Manifest

open Json

def instant? (json : Json) : Option Instant := (text? json).bind Instant.parse?

def writeInstant (instant : Instant) : Json := .str instant.brief

def int64? : Json → Option Int := intWithin? (-(Nat.pow 2 63 : Nat)) ((Nat.pow 2 63 : Nat) - 1)

/-- Null stands for no bytes at all. -/
def bytes? : Json → Option (List UInt8)
  | .null => some []
  | .str text => Base64.decode? text.toList
  | _ => none

def writeBytes (bytes : List UInt8) : Json := .str (String.ofList (Base64.encode bytes))

def readOwner (json : Json) : Option OwnerReference := do
  let fields ← members? json
  return {
    apiVersion := (← last? "apiVersion" text? fields).getD ""
    blockOwnerDeletion := ← last? "blockOwnerDeletion" bool? fields
    controller := ← last? "controller" bool? fields
    kind := (← last? "kind" text? fields).getD ""
    name := (← last? "name" text? fields).getD ""
    uid := (← last? "uid" text? fields).getD "" }

def writeOwner (owner : OwnerReference) : Json :=
  .obj <| [("apiVersion", Json.str owner.apiVersion)] ++
    optional "blockOwnerDeletion" .bool owner.blockOwnerDeletion ++
    optional "controller" .bool owner.controller ++
    [("kind", .str owner.kind), ("name", .str owner.name), ("uid", .str owner.uid)]

def readManaged (json : Json) : Option ManagedFields := do
  let fields ← members? json
  return {
    apiVersion := ← last? "apiVersion" text? fields
    fieldsType := ← last? "fieldsType" text? fields
    fields := ← last? "fieldsV1" value? fields
    manager := ← last? "manager" text? fields
    operation := ← last? "operation" text? fields
    subresource := ← last? "subresource" text? fields
    time := ← last? "time" instant? fields }

def writeManaged (managed : ManagedFields) : Json :=
  .obj <| optional "apiVersion" .str managed.apiVersion ++
    optional "fieldsType" .str managed.fieldsType ++
    optional "fieldsV1" id managed.fields ++
    optional "manager" .str managed.manager ++
    optional "operation" .str managed.operation ++
    optional "subresource" .str managed.subresource ++
    optional "time" writeInstant managed.time

def readMetadata (json : Json) : Option Metadata := do
  let fields ← members? json
  return {
    annotations := ← last? "annotations" (dict? text?) fields
    creationTimestamp := ← last? "creationTimestamp" instant? fields
    deletionGracePeriodSeconds := ← last? "deletionGracePeriodSeconds" int64? fields
    deletionTimestamp := ← last? "deletionTimestamp" instant? fields
    finalizers := ← last? "finalizers" (list? text?) fields
    generateName := ← last? "generateName" text? fields
    generation := ← last? "generation" int64? fields
    labels := ← last? "labels" (dict? text?) fields
    managedFields := ← last? "managedFields" (list? readManaged) fields
    name := ← last? "name" text? fields
    scope := ← last? "namespace" text? fields
    ownerReferences := ← last? "ownerReferences" (list? readOwner) fields
    resourceVersion := ← last? "resourceVersion" text? fields
    selfLink := ← last? "selfLink" text? fields
    uid := ← last? "uid" text? fields }

def writeMetadata (metadata : Metadata) : Json :=
  .obj <| optional "annotations" textDict metadata.annotations ++
    optional "creationTimestamp" writeInstant metadata.creationTimestamp ++
    optional "deletionGracePeriodSeconds" .int metadata.deletionGracePeriodSeconds ++
    optional "deletionTimestamp" writeInstant metadata.deletionTimestamp ++
    optional "finalizers" texts metadata.finalizers ++
    optional "generateName" .str metadata.generateName ++
    optional "generation" .int metadata.generation ++
    optional "labels" textDict metadata.labels ++
    optional "managedFields" (fun fields => .arr (fields.map writeManaged))
      metadata.managedFields ++
    optional "name" .str metadata.name ++
    optional "namespace" .str metadata.scope ++
    optional "ownerReferences" (fun owners => .arr (owners.map writeOwner))
      metadata.ownerReferences ++
    optional "resourceVersion" .str metadata.resourceVersion ++
    optional "selfLink" .str metadata.selfLink ++
    optional "uid" .str metadata.uid

/-- Every member of that name must be the given text. -/
def fixed (name text : String) (members : List (String × Json)) : Bool :=
  (named name members).all fun json => json = Json.str text

variable {Body : Type} [Kind Body]

def read (json : Json) : Option (Manifest Body) := do
  let fields ← members? json
  guard (fixed "apiVersion" "v1" fields && fixed "kind" (Kind.name Body) fields)
  let metadata ← last? "metadata" readMetadata fields
  let body ← Kind.read fields
  return ⟨metadata.getD {}, body⟩

/-- Version and kind come first, then the fields in alphabetical order. -/
def write (manifest : Manifest Body) : Json :=
  let fields := ("metadata", writeMetadata manifest.metadata) :: Kind.write manifest.body
  .obj (("apiVersion", .str "v1") :: ("kind", .str (Kind.name Body)) ::
    (Dict.ofList fields).entries)

def yaml (manifest : Manifest Body) : String := Yaml.print manifest.write

def writeCondition (condition : Condition) : Json :=
  .obj <| optional "lastTransitionTime" writeInstant condition.lastTransitionTime ++
    optional "message" .str condition.message ++
    optional "reason" .str condition.reason ++
    [("status", .str condition.status), ("type", .str condition.type)]

def readCondition (json : Json) : Option Condition := do
  let fields ← members? json
  return {
    lastTransitionTime := ← last? "lastTransitionTime" instant? fields
    message := ← last? "message" text? fields
    reason := ← last? "reason" text? fields
    status := (← last? "status" text? fields).getD ""
    type := (← last? "type" text? fields).getD "" }

end Manifest

open Json Manifest

instance : Kind Entries where
  name := "ConfigMap"
  plural := "configmaps"
  write entries :=
    optional "binaryData" (fun data => Json.dict (data.map writeBytes)) entries.binaryData ++
      optional "data" textDict entries.data ++ optional "immutable" .bool entries.immutable
  read fields := do
    return {
      binaryData := ← last? "binaryData" (dict? bytes?) fields
      data := ← last? "data" (dict? text?) fields
      immutable := ← last? "immutable" bool? fields }

instance : Kind LifeCycle where
  name := "Namespace"
  plural := "namespaces"
  write cycle :=
    optional "spec" (fun finalizers => .obj (optional "finalizers" texts finalizers)) cycle.spec ++
      optional "status" (fun status => .obj
        (optional "conditions" (fun all => .arr (all.map writeCondition)) status.1 ++
          optional "phase" .str status.2)) cycle.status
  read fields := do
    let spec ← last? "spec" (fun json => do
      last? "finalizers" (list? text?) (← members? json)) fields
    let status ← last? "status" (fun json => do
      let inner ← members? json
      return (← last? "conditions" (list? readCondition) inner,
        ← last? "phase" text? inner)) fields
    return ⟨spec, status⟩

end ClusterDesk
