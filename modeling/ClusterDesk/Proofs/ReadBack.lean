import ClusterDesk.Proofs.Operations
import ClusterDesk.Proofs.Replacement
import ClusterDesk.Store

/-!
Payloads, read back. A payload is a model without what only the backend gives, so that reading it
gives the model again, shown as the YAML of the payload unless another form is given; and it says of
itself what it is addressed by, so that a store has no reason to refuse it. Main statement:
`payloads_read_back`, for config maps and for namespaces.
-/

namespace ClusterDesk

open Program
open ConfigMap (OwnerApart)

variable {Body Model : Type}

/-- What the payloads of a model are read as, given the other form of the resource if there is
one. -/
structure ReadsBack (converter : Converter (Manifest Body) String Model) (model : Model)
    (created updated : Option String → Model) : Prop where
  created : ∀ yaml, converter.toModel (converter.createPayload model) yaml = created yaml
  updated : ∀ yaml, converter.toModel (converter.updatePayload model) yaml = updated yaml

/-- The payload names what it is addressed by. -/
structure Bears (id : ResourceId) (payload : Manifest Body) : Prop where
  name : payload.metadata.name = some id.name
  scope : payload.metadata.scope = id.scope

/-- The payloads of a model bear its identity, and a store takes the first of them. -/
structure Addressed (converter : Converter (Manifest Body) String Model) (model : Model) :
    Prop where
  created : Bears (converter.identity model) (converter.createPayload model)
  updated : Bears (converter.identity model) (converter.updatePayload model)
  accepted : ∀ store : Store Body, store.failing = none →
    let run := (Service.create converter model).run Store.answer store
    let item := Store.admitted store.items.length (converter.createPayload model)
    run.value = .ok (converter.toModel item none) ∧
      run.state = { store with items := store.items ++ [item] }

theorem Addressed.of_bears {converter : Converter (Manifest Body) String Model} {model : Model}
    (created : Bears (converter.identity model) (converter.createPayload model))
    (updated : Bears (converter.identity model) (converter.updatePayload model)) :
    Addressed converter model where
  created := created
  updated := updated
  accepted := by
    intro store healthy run item
    have answered : Store.answer (Service.creation converter model) store =
        (.ok item, { store with items := store.items ++ [item] }) := by
      rw [Store.answer_healthy healthy]
      exact if_pos created.scope
    exact (Service.create_puts converter model).run_of_answer answered

namespace ConfigMap

theorem ofManifest_createPayload {map : ConfigMap} (apart : map.OwnerApart)
    (yaml : Option String) :
    ofManifest map.createPayload yaml =
      { map with
        id := none, resourceVersion := none, creationDate := none
        yaml := yaml.getD map.createPayload.yaml } :=
  -- What is to be created is what an update of a config map unknown to the backend would send.
  have unknown : OwnerApart { map with id := none, resourceVersion := none } := apart
  ofManifest_updatePayload unknown yaml

theorem addressed (map : ConfigMap) : Addressed converter map := .of_bears ⟨rfl, rfl⟩ ⟨rfl, rfl⟩

end ConfigMap

namespace Namespace

variable (reserved : Reserved) (space : Namespace)

theorem join_specFinalizers : (space.specFinalizers.map some).join = space.specFinalizers := by
  cases space.specFinalizers <;> rfl

theorem ofManifest_updatePayload (yaml : Option String) :
    ofManifest reserved space.updatePayload yaml =
      { space with
        status := none, creationDate := none
        yaml := yaml.getD space.updatePayload.yaml
        isSystem := reserved.isSystem space.name } := by
  simp only [ofManifest, updatePayload, payloadMetadata, payloadBody,
    ConfigMap.getD_unlessEmpty_dict, ConfigMap.getD_unlessEmpty_list, Option.getD_some,
    Option.bind_none, join_specFinalizers]

theorem ofManifest_createPayload (yaml : Option String) :
    ofManifest reserved space.createPayload yaml =
      { space with
        id := none, resourceVersion := none, status := none, creationDate := none
        yaml := yaml.getD space.createPayload.yaml
        isSystem := reserved.isSystem space.name } :=
  ofManifest_updatePayload reserved { space with id := none, resourceVersion := none } yaml

theorem addressed : Addressed (converter reserved) space := .of_bears ⟨rfl, rfl⟩ ⟨rfl, rfl⟩

end Namespace

/-- What is read of a payload is the model that it was made of. A payload for an update lacks only
what the backend alone can tell; one for a creation lacks the identity and version as well. That
the owner is apart from the labels holds of every config map that was read, and edits keep it. -/
theorem payloads_read_back :
    (∀ map : ConfigMap, map.OwnerApart →
      ReadsBack ConfigMap.converter map
        (fun yaml =>
          { map with
            id := none, resourceVersion := none, creationDate := none
            yaml := yaml.getD (Yaml.print map.createPayload.write) })
        (fun yaml =>
          { map with
            creationDate := none
            yaml := yaml.getD (Yaml.print map.updatePayload.write) })) ∧
    (∀ (raw : Manifest Entries) (yaml : Option String), (ConfigMap.ofManifest raw yaml).OwnerApart) ∧
    (∀ id : ResourceId, (ConfigMap.ofId id).OwnerApart) ∧
    (∀ (map : ConfigMap) (edits : List ConfigMap.Edit), map.OwnerApart →
      (map.edit edits).OwnerApart) ∧
    (∀ (reserved : Reserved) (space : Namespace),
      ReadsBack (Namespace.converter reserved) space
        (fun yaml =>
          { space with
            id := none, resourceVersion := none, status := none, creationDate := none
            yaml := yaml.getD (Yaml.print space.createPayload.write)
            isSystem := reserved.isSystem space.name })
        (fun yaml =>
          { space with
            status := none, creationDate := none
            yaml := yaml.getD (Yaml.print space.updatePayload.write)
            isSystem := reserved.isSystem space.name })) ∧
    (∀ map : ConfigMap, Addressed ConfigMap.converter map) ∧
    ∀ (reserved : Reserved) (space : Namespace), Addressed (Namespace.converter reserved) space := by
  refine ⟨fun map apart => ?_, ConfigMap.ownerApart_ofManifest, ConfigMap.ownerApart_ofId,
    fun map edits apart => apart.edit edits, fun reserved space => ?_, ConfigMap.addressed,
    Namespace.addressed⟩
  · exact ⟨ConfigMap.ofManifest_createPayload apart, ConfigMap.ofManifest_updatePayload apart⟩
  · exact ⟨Namespace.ofManifest_createPayload reserved space,
      Namespace.ofManifest_updatePayload reserved space⟩

private def owned : ConfigMap where
  id := some "uid-7"
  name := "app"
  scope := "prod"
  owner := some "web"
  resourceVersion := some "41"
  labels := Dict.ofList [("tier", "db")]
  finalizers := ["keep"]
  binaryData := Dict.ofList [("key", [0, 255])]

/-- The owner goes into the labels that are sent, and comes out of them again. -/
theorem payloads_read_back_owned :
    owned.OwnerApart ∧
      owned.createPayload.metadata.labels =
        some (Dict.ofList [("tier", "db"), (ConfigMap.ownerLabel, "web")]) ∧
      ConfigMap.ofManifest owned.createPayload (some "text") =
        { owned with id := none, resourceVersion := none, yaml := "text" } ∧
      ((Service.create ConfigMap.converter owned).run Store.answer {}).value =
        .ok (ConfigMap.ofManifest (Store.admitted 0 owned.createPayload) none) := by
  have apart : owned.labels.find? ConfigMap.ownerLabel = none := by decide
  obtain ⟨maps, -, -, -, -, addressed, -⟩ := payloads_read_back
  exact ⟨apart, by decide, (maps owned apart).created (some "text"),
    ((addressed owned).accepted {} rfl).1⟩

end ClusterDesk
