import ClusterDesk.Manifest
import ClusterDesk.Service

/-!
A backend held in memory. Items stay in the order in which they were added; an identity is
answered by the first item of that name and namespace, and every failure carries a status code.
-/

namespace ClusterDesk

structure Store (Body : Type) where
  items : List (Manifest Body) := []
  /-- The code with which every call but that for the secondary form fails. -/
  failing : Option Nat := none
  deriving DecidableEq, Inhabited

namespace Store

variable {Body : Type}

def refusal (code : Nat) : Cause := .status code ("status " ++ toString code)

def matching (id : ResourceId) (item : Manifest Body) : Bool := item.metadata.answersTo id

def get (store : Store Body) (id : ResourceId) : Except Cause (Manifest Body) :=
  match store.items.find? (matching id) with
  | some item => .ok item
  | none => .error (refusal 404)

def secondary (id : ResourceId) : String := "# " ++ id.display ++ "\n"

/-- The items of a namespace, or all. -/
def list (store : Store Body) (scope : Option String) : List (Manifest Body) :=
  store.items.filter fun item => scope.isNone || item.metadata.scope = scope

/-- An item as it is stored when it is the one after `count` others. -/
def admitted (count : Nat) (payload : Manifest Body) : Manifest Body :=
  { payload with
    metadata :=
      { payload.metadata with
        uid := some ("uid-" ++ toString count), resourceVersion := some "1" } }

/-- Adds an item, which must say for itself which namespace it is for. -/
def create (store : Store Body) (scope : Option String) (payload : Manifest Body) :
    Except Cause (Manifest Body) × Store Body :=
  if payload.metadata.scope = scope then
    let item := admitted store.items.length payload
    (.ok item, { store with items := store.items ++ [item] })
  else (.error (refusal 400), store)

def replaceFirst (id : ResourceId) (payload : Manifest Body) :
    List (Manifest Body) → Option (List (Manifest Body))
  | [] => none
  | item :: rest =>
    if matching id item then some (payload :: rest)
    else (replaceFirst id payload rest).map (item :: ·)

def update (store : Store Body) (id : ResourceId) (payload : Manifest Body) :
    Except Cause (Manifest Body) × Store Body :=
  match replaceFirst id payload store.items with
  | some items => (.ok payload, { store with items })
  | none => (.error (refusal 404), store)

/-- Removes every item of that identity. -/
def delete (store : Store Body) (id : ResourceId) : Except Cause Unit × Store Body :=
  let kept := store.items.filter fun item => !matching id item
  if kept.length = store.items.length then (.error (refusal 404), store)
  else (.ok (), { store with items := kept })

/-- The answer to a call by a store in which nothing is made to fail. -/
def serve (store : Store Body) : (call : Call (Manifest Body)) →
    Call.Answer (Manifest Body) String Cause call × Store Body
  | .get id => (store.get id, store)
  | .secondary id => (.ok (some (secondary id)), store)
  | .list scope => (.ok (store.list scope), store)
  | .create scope payload => store.create scope payload
  | .update id payload => store.update id payload
  | .delete id => store.delete id

/-- The failure of any call. -/
def refuse {Raw Other E : Type} (cause : E) : (call : Call Raw) → Call.Answer Raw Other E call
  | .get _ | .secondary _ | .list _ | .create _ _ | .update _ _ | .delete _ => .error cause

def answer (call : Call (Manifest Body)) (store : Store Body) :
    Call.Answer (Manifest Body) String Cause call × Store Body :=
  match store.failing, call with
  | some _, .secondary id => store.serve (.secondary id)
  | some code, call => (refuse (refusal code) call, store)
  | none, call => store.serve call

theorem answer_healthy {store : Store Body} (healthy : store.failing = none)
    (call : Call (Manifest Body)) : answer call store = store.serve call := by
  unfold answer
  rw [healthy]

end Store

end ClusterDesk
