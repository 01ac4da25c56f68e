import ClusterDesk.Draft
import ClusterDesk.Failure
import ClusterDesk.Program
import ClusterDesk.ResourceId

/-!
Resources of one kind, seen through models. Every operation puts its calls to a backend and turns
the answers into a model or into a failure that names the operation. Main rule: an absent resource
reads as the default model of its identity, and any other failed call fails the operation.
-/

namespace ClusterDesk

/-- Calls to the backend of resources of type `Raw`. -/
inductive Call (Raw : Type) where
  | get (id : ResourceId)
  /-- The other form of the resource, if the backend has one. -/
  | secondary (id : ResourceId)
  | list (scope : Option String)
  | create (scope : Option String) (payload : Raw)
  | update (id : ResourceId) (payload : Raw)
  | delete (id : ResourceId)
  deriving DecidableEq, Repr

/-- What a call is answered with; `Other` is the type of secondary forms, `E` that of failures. -/
abbrev Call.Answer (Raw Other E : Type) : Call Raw → Type
  | get _ => Except E Raw
  | secondary _ => Except E (Option Other)
  | list _ => Except E (List Raw)
  | create _ _ => Except E Raw
  | update _ _ => Except E Raw
  | delete _ => Except E Unit

def Call.name {Raw : Type} : Call Raw → String
  | get _ => "get"
  | secondary _ => "secondary"
  | list _ => "list"
  | create _ _ => "create"
  | update _ _ => "update"
  | delete _ => "delete"

/-- Whether a call changes what the backend holds. -/
def Call.mutating {Raw : Type} : Call Raw → Bool
  | create _ _ | update _ _ | delete _ => true
  | get _ | secondary _ | list _ => false

/-- What to tell when an operation fails. -/
structure Messages where
  get : String
  list : String
  create : String
  update : String
  delete : String
  deriving DecidableEq, Repr

/-- How resources of one kind are shown and written back. -/
structure Converter (Raw Other Model : Type) where
  messages : Messages
  toModel : Raw → Option Other → Model
  /-- What is shown for an absent resource. -/
  defaultModel : ResourceId → Model
  createPayload : Model → Raw
  updatePayload : Model → Raw
  identity : Model → ResourceId
  /-- Whether the backend has given the model an identity of its own. -/
  isPersisted : Model → Bool

/-- One model, or a sequence of them. -/
inductive Fetched (M : Type) where
  | one (model : M)
  | many (models : List M)
  deriving DecidableEq, Repr

namespace Service

variable {Raw Other Model E : Type} [Failure E]

/-- Conversations with a backend. -/
abbrev Session (Raw Other E α : Type) : Type := Program (Call Raw) (Call.Answer Raw Other E) α

abbrev Result (E α : Type) : Type := Except (ServiceError E) α

def draft (converter : Converter Raw Other Model) (model : Model) : Draft Model :=
  if converter.isPersisted model then .existing model else .new model

def say {Q : Type} {A : Q → Type} (text : String) : Program Q A Unit :=
  Program.log .debug .service text

/-- What a reading amounts to once both forms have been asked for. -/
def settle (converter : Converter Raw Other Model) (id : ResourceId)
    (primary : Except E Raw) (other : Except E (Option Other)) :
    Session Raw Other E (Result E Model) :=
  match primary with
  | .error cause =>
    if Failure.notFound cause then do
      say (id.display ++ " not found, using default")
      return .ok (converter.defaultModel id)
    else return .error ⟨.retrieve, converter.messages.get, cause⟩
  | .ok raw =>
    match other with
    | .ok form => return .ok (converter.toModel raw form)
    | .error cause => do
      Program.log .warn .service
        ("Alternate representation of " ++ id.display ++ " unavailable: " ++
          Failure.display cause)
      return .ok (converter.toModel raw none)

/-- Reads one resource; both its forms are asked for at once. -/
def get (converter : Converter Raw Other Model) (id : ResourceId) :
    Session Raw Other E (Result E Model) := do
  say ("Fetching " ++ id.display)
  let (primary, other) ← Program.queryBoth (Call.get id) (Call.secondary id)
  settle converter id primary other

def list (converter : Converter Raw Other Model) (scope : Option String) :
    Session Raw Other E (Result E (List Model)) := do
  say ("Listing in " ++ scope.getD "all namespaces")
  let answer ← Program.query (Call.list scope)
  match answer with
  | .ok items => return .ok (items.map fun raw => converter.toModel raw none)
  | .error cause => return .error ⟨.retrieve, converter.messages.list, cause⟩

/-- One resource when it is named, all in the namespace otherwise. -/
def fetch (converter : Converter Raw Other Model) (scope name : Option String) :
    Session Raw Other E (Result E (Fetched Model)) := do
  match name with
  | some name => return (← get converter ⟨scope, name⟩).map .one
  | none => return (← list converter scope).map .many

def create (converter : Converter Raw Other Model) (model : Model) :
    Session Raw Other E (Result E Model) := do
  let id := converter.identity model
  say ("Creating " ++ id.display)
  let answer ← Program.query (Call.create id.scope (converter.createPayload model))
  match answer with
  | .ok raw => return .ok (converter.toModel raw none)
  | .error cause => return .error ⟨.create, converter.messages.create, cause⟩

/-- Saves a draft: a new model is created, an existing one replaced as a whole. -/
def update (converter : Converter Raw Other Model) (draft : Draft Model) :
    Session Raw Other E (Result E Model) := do
  match draft with
  | .new model => create converter model
  | .existing model =>
    let id := converter.identity model
    say ("Updating " ++ id.display)
    let answer ← Program.query (Call.update id (converter.updatePayload model))
    match answer with
    | .ok raw => return .ok (converter.toModel raw none)
    | .error cause => return .error ⟨.update, converter.messages.update, cause⟩

def delete (converter : Converter Raw Other Model) (model : Model) :
    Session Raw Other E (Result E Unit) := do
  let id := converter.identity model
  say ("Deleting " ++ id.display)
  let answer ← Program.query (Call.delete id)
  match answer with
  | .ok () => return .ok ()
  | .error cause => return .error ⟨.delete, converter.messages.delete, cause⟩

end Service

end ClusterDesk
