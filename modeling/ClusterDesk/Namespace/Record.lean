import ClusterDesk.Namespace

/-!
Namespaces as records: one JSON member for each field. A change names a field and gives its new
value; fields that it does not name stay as they are.
-/

namespace ClusterDesk.Namespace

open Json

def record (space : Namespace) : Json :=
  .obj
    [("id", .ofText space.id), ("name", .str space.name), ("status", .ofText space.status),
      ("creation_date", .ofText (space.creationDate.map Instant.full)),
      ("resource_version", .ofText space.resourceVersion), ("labels", textDict space.labels),
      ("annotations", textDict space.annotations),
      ("owner_references", .arr (space.ownerReferences.map Manifest.writeOwner)),
      ("finalizers", texts space.finalizers),
      ("spec_finalizers", (space.specFinalizers.map texts).getD .null),
      ("yaml", .str space.yaml), ("is_system", .bool space.isSystem)]

/-- Sets the field of that name; without such a field, or with a value of another type, there is no
result. -/
def setField (space : Namespace) (name : String) (value : Json) : Option Namespace :=
  match name with
  | "id" => (nullable text? value).map fun id => { space with id }
  | "name" => (text? value).map fun name => { space with name }
  | "status" => (nullable text? value).map fun status => { space with status }
  | "creation_date" =>
    (nullable Manifest.instant? value).map fun creationDate => { space with creationDate }
  | "resource_version" =>
    (nullable text? value).map fun resourceVersion => { space with resourceVersion }
  | "labels" => (dict? text? value).map fun labels => { space with labels }
  | "annotations" => (dict? text? value).map fun annotations => { space with annotations }
  | "owner_references" =>
    (list? Manifest.readOwner value).map fun ownerReferences => { space with ownerReferences }
  | "finalizers" => (list? text? value).map fun finalizers => { space with finalizers }
  | "spec_finalizers" =>
    (nullable (list? text?) value).map fun specFinalizers => { space with specFinalizers }
  | "yaml" => (text? value).map fun yaml => { space with yaml }
  | "is_system" => (bool? value).map fun isSystem => { space with isSystem }
  | _ => none

end ClusterDesk.Namespace
