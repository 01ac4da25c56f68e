import ClusterDesk.Disk
import ClusterDesk.Failure
import ClusterDesk.Url

/-!
What can go wrong outside a single call to a backend, and how it is told.
-/

namespace ClusterDesk

inductive Problem where
  | service (error : ServiceError Cause)
  | disk (path : String) (fault : Disk.Fault)
  /-- The configuration in a file has the wrong form. -/
  | config (path : String)
  /-- The application state in a file has the wrong form. -/
  | state (path : String)
  | invalidEntry (entry : String)
  | url (fault : Url.Fault)
  | noSuchLabel (index : Nat)
  | invalidCheckinInterval (seconds : UInt32)
  deriving DecidableEq, Repr

/-- The links from the problem to its last cause. Where the form of a file is wrong, the place of
the fault is not told. -/
def Problem.chain : Problem → List String
  | service error => error.chain
  | disk path fault => ["failed to read " ++ path, fault.message]
  | config path => ["invalid config " ++ path]
  | state path => ["invalid state file " ++ path]
  | invalidEntry entry => ["invalid entry " ++ Quoted.quote entry ++ ", expected KEY=VALUE"]
  | url fault => ["bad url", fault.message]
  | noSuchLabel index => ["no filtered label at index " ++ toString index]
  | invalidCheckinInterval seconds =>
    ["edge agent checkin interval must be one of 5, 10 or 30 seconds, got " ++
      toString seconds.toNat]

def Problem.message (problem : Problem) : String := problem.chain.head?.getD ""

end ClusterDesk
