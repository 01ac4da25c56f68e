import ClusterDesk.Text.Quoted

/-!
Why a call failed, and what the failed operation was. A failure is shown as a chain of links, the
outermost first, each with the text of what lies behind it.
-/

namespace ClusterDesk

/-- Failures that may carry a status code. -/
class Failure (E : Type) where
  status : E → Option Nat
  /-- The links from the failure to its last cause. -/
  chain : E → List String

namespace Failure

variable {E : Type} [Failure E]

def notFound (failure : E) : Bool := status failure = some 404

def display (failure : E) : String := (chain failure).head?.getD ""

def describe (failure : E) : String := ": ".intercalate (chain failure)

end Failure

/-- The answer of the cluster to a refused request. -/
structure Refusal where
  status : String
  message : String
  reason : String
  code : Nat
  deriving DecidableEq, Repr

def Refusal.display (refusal : Refusal) : String := refusal.message ++ ": " ++ refusal.reason

/-- All fields, the texts quoted. -/
def Refusal.details (refusal : Refusal) : String :=
  "ErrorResponse \x7b status: " ++ Quoted.quote refusal.status ++ ", message: " ++
    Quoted.quote refusal.message ++ ", reason: " ++ Quoted.quote refusal.reason ++ ", code: " ++
    toString refusal.code ++ " \x7d"

/-- A call to the cluster that did not succeed. -/
inductive ClusterFailure where
  | refused (refusal : Refusal)
  /-- The request has no valid address. -/
  | address (problem : String)
  /-- The answer is no text. -/
  | notText (problem : String)
  /-- The answer does not describe the resource. -/
  | undecodable (problem : String)
  /-- The request was not answered. -/
  | unanswered (links : List String)
  deriving DecidableEq, Repr

def ClusterFailure.chain : ClusterFailure → List String
  | refused refusal =>
    ["ApiError: " ++ refusal.display ++ " (" ++ refusal.details ++ ")", refusal.display]
  | address problem => ["HttpError: " ++ problem, problem]
  | notText problem => ["UTF-8 Error: " ++ problem, problem]
  | undecodable problem => ["Error deserializing response: " ++ problem, problem]
  | unanswered links => ("ServiceError: " ++ links.head?.getD "") :: links

/-- A call to the settings server that was not answered, or not in the expected form. -/
inductive ServerFailure where
  | unsent (problem : String)
  | undecodable (problem : String)
  /-- The token cannot be sent. -/
  | badToken
  /-- The address is not that of a web server. -/
  | badScheme (address : String)
  deriving DecidableEq, Repr

def ServerFailure.chain : ServerFailure → List String
  | unsent problem => ["error sending request", problem]
  | undecodable problem => ["error decoding response body", problem]
  | badToken => ["builder error", "failed to parse header value"]
  | badScheme address =>
    ["builder error for url (" ++ address ++ ")", "URL scheme is not allowed"]

/-- Why a backend call failed. -/
inductive Cause where
  | status (code : Nat) (message : String)
  | cluster (failure : ClusterFailure)
  | server (failure : ServerFailure)
  | json (problem : String)
  deriving DecidableEq, Repr

def Cause.code : Cause → Option Nat
  | status code _ => some code
  | cluster (.refused refusal) => some refusal.code
  | _ => none

def Cause.chain : Cause → List String
  | status code message => ["api error " ++ toString code ++ ": " ++ message]
  | cluster failure => "kube error" :: failure.chain
  | server failure => "http error" :: failure.chain
  | json problem => ["json error", problem]

instance : Failure Cause := ⟨Cause.code, Cause.chain⟩

inductive Operation where
  | retrieve | create | update | delete
  deriving DecidableEq, Repr

/-- A failed operation: what it was, what to tell, and the failure of the call behind it. -/
structure ServiceError (E : Type) where
  operation : Operation
  message : String
  cause : E
  deriving DecidableEq, Repr

def ServiceError.chain {E : Type} [Failure E] (error : ServiceError E) : List String :=
  error.message :: Failure.chain error.cause

end ClusterDesk
