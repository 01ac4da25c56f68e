/-!
Names of resources: a name within a namespace, or a name of the whole cluster.
-/

namespace ClusterDesk

structure ResourceId where
  /-- The namespace; none for resources of the whole cluster. -/
  scope : Option String
  name : String
  deriving DecidableEq, Repr, Inhabited

namespace ResourceId

def namespaced (scope name : String) : ResourceId := ⟨some scope, name⟩

def cluster (name : String) : ResourceId := ⟨none, name⟩

def display (id : ResourceId) : String :=
  match id.scope with
  | none => id.name
  | some scope => id.name ++ " in " ++ scope

/-- Names of the whole cluster come first, then namespaces in order, then names in order. -/
def precedes (a b : ResourceId) : Bool :=
  match a.scope, b.scope with
  | none, none => decide (a.name < b.name)
  | none, some _ => true
  | some _, none => false
  | some s, some t => decide (s < t) || (decide (s = t) && decide (a.name < b.name))

/-- In increasing order, without repetitions. -/
def sortedSet (ids : List ResourceId) : List ResourceId :=
  (ids.mergeSort fun a b => !b.precedes a).foldr (fun id rest =>
    if rest.head? = some id then rest else id :: rest) []

end ResourceId

end ClusterDesk
