import ClusterDesk.Store

/-!
A store in memory of which single kinds of calls can be made to fail, and whose secondary forms can
be replaced or withheld. A call that is made to fail changes nothing.
-/

namespace ClusterDesk

/-- Where the secondary forms of a store come from. -/
inductive SecondaryForm where
  /-- From the store itself. -/
  | usual
  | fixed (text : String)
  | withheld
  /-- There are none, and nothing can go wrong in saying so. -/
  | unsupported
  deriving DecidableEq, Repr, Inhabited

structure FaultyStore (Body : Type) where
  store : Store Body := {}
  /-- The causes with which calls fail, by the names of the calls. -/
  faults : List (String × Cause) := []
  secondary : SecondaryForm := .usual
  deriving Inhabited

namespace FaultyStore

variable {Body : Type}

def fault? (faulty : FaultyStore Body) (call : Call (Manifest Body)) : Option Cause :=
  (faulty.faults.find? (·.1 = call.name)).map (·.2)

/-- Makes the calls of that name fail, or succeed again. -/
def setFault (faulty : FaultyStore Body) (name : String) (fault : Option Cause) :
    FaultyStore Body :=
  { faulty with
    faults := faulty.faults.filter (·.1 ≠ name) ++ (fault.map (name, ·)).toList }

def secondaryOf (faulty : FaultyStore Body) (id : ResourceId) : Except Cause (Option String) :=
  match faulty.secondary with
  | .usual => .ok (some (Store.secondary id))
  | .fixed text => .ok (some text)
  | .withheld | .unsupported => .ok none

def answer (call : Call (Manifest Body)) (faulty : FaultyStore Body) :
    Call.Answer (Manifest Body) String Cause call × FaultyStore Body :=
  match call, faulty.fault? call with
  | .secondary id, none => (faulty.secondaryOf id, faulty)
  | .secondary _, some cause =>
    (if faulty.secondary = .unsupported then .ok none else .error cause, faulty)
  | call, some cause => (Store.refuse cause call, faulty)
  | call, none =>
    let (reply, store) := faulty.store.answer call
    (reply, { faulty with store })

end FaultyStore

end ClusterDesk
