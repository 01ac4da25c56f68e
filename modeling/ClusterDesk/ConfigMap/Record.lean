import ClusterDesk.ConfigMap
import ClusterDesk.Text.Hex

/-!
Config maps as records: one JSON member for each field. A change names a field and gives its new
value; fields that it does not name stay as they are.
-/

namespace ClusterDesk.ConfigMap

open Json

def record (map : ConfigMap) : Json :=
  .obj
    [("id", .ofText map.id), ("name", .str map.name), ("namespace", .str map.scope),
      ("yaml", .str map.yaml), ("configuration_owner", .ofText map.owner),
      ("creation_date", .ofText (map.creationDate.map Instant.full)),
      ("resource_version", .ofText map.resourceVersion), ("labels", textDict map.labels),
      ("annotations", textDict map.annotations),
      ("owner_references", .arr (map.ownerReferences.map Manifest.writeOwner)),
      ("finalizers", texts map.finalizers), ("immutable", .ofBool map.immutable),
      ("data", textDict map.data), ("binary_data", textDict (map.binaryData.map Hex.encode))]

/-- The bytes of an entry given in hexadecimal digits. -/
def hexBytes? (json : Json) : Option (List UInt8) := (text? json).bind Hex.decode?

/-- Sets the field of that name; without such a field, or with a value of another type, there is no
result. -/
def setField (map : ConfigMap) (name : String) (value : Json) : Option ConfigMap :=
  match name with
  | "id" => (nullable text? value).map fun id => { map with id }
  | "name" => (text? value).map fun name => { map with name }
  | "namespace" => (text? value).map fun scope => { map with scope }
  | "yaml" => (text? value).map fun yaml => { map with yaml }
  | "configuration_owner" => (nullable text? value).map fun owner => { map with owner }
  | "creation_date" =>
    (nullable Manifest.instant? value).map fun creationDate => { map with creationDate }
  | "resource_version" =>
    (nullable text? value).map fun resourceVersion => { map with resourceVersion }
  | "labels" => (dict? text? value).map fun labels => { map with labels }
  | "annotations" => (dict? text? value).map fun annotations => { map with annotations }
  | "owner_references" =>
    (list? Manifest.readOwner value).map fun ownerReferences => { map with ownerReferences }
  | "finalizers" => (list? text? value).map fun finalizers => { map with finalizers }
  | "immutable" => (nullable bool? value).map fun immutable => { map with immutable }
  | "data" => (dict? text? value).map fun data => { map with data }
  | "binary_data" => (dict? hexBytes? value).map fun binaryData => { map with binaryData }
  | _ => none

end ClusterDesk.ConfigMap
