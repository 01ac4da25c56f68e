import ClusterDesk.Http
import ClusterDesk.Json.Parser
import ClusterDesk.Json.Printer
import ClusterDesk.Manifest.Wire
import ClusterDesk.Service

/-!
The backend of a cluster: each call is one request to the address of the resource or of its
collection. A refusal is told as the cluster words it; an answer that does not describe a resource
fails the call.
-/

namespace ClusterDesk.Rest

open Json

variable {Body : Type}

/-- The address of all resources of a kind, or of those in a namespace. -/
def collection (Body : Type) [Kind Body] (scope : Option String) : String :=
  "/api/v1/" ++ (scope.elim "" fun scope => "namespaces/" ++ scope ++ "/") ++ Kind.plural Body

def item (Body : Type) [Kind Body] (id : ResourceId) : String :=
  collection Body id.scope ++ "/" ++ id.name

/-- How a call is put to the cluster, before its address is checked. -/
structure Form where
  method : Http.Method
  address : String
  /-- Whether the answer is JSON; otherwise it is text of any form. -/
  json : Bool := true
  body : String := ""

def form [Kind Body] : Call (Manifest Body) → Form
  | .get id => { method := .get, address := item Body id }
  | .secondary id => { method := .get, address := item Body id, json := false }
  | .list scope => { method := .get, address := collection Body scope }
  | .create scope payload =>
    { method := .post, address := collection Body scope, body := compact payload.write }
  | .update id payload =>
    { method := .put, address := item Body id, body := compact payload.write }
  | .delete id => { method := .delete, address := item Body id, body := compact (.obj []) }

def Form.request (form : Form) : Except ClusterFailure Http.Request :=
  match Http.target form.address with
  | .error problem => .error (.address problem)
  | .ok target =>
    .ok {
      method := form.method, target
      accept := if form.json then "application/json" else "application/yaml"
      contentType := if form.json then some "application/json" else none
      body := form.body }

def code? (json : Json) : Option Nat := natBelow? (Nat.pow 2 16) json

/-- A refusal in the words of the cluster. -/
def readRefusal : Json → Option Refusal
  | .obj members => do
    let status ← required? "status" text? members
    let message ← once? "message" "" text? members
    let reason ← once? "reason" "" text? members
    let code ← required? "code" code? members
    return ⟨status, message, reason, code⟩
  | .arr [status, message, reason, code] => do
    return ⟨← text? status, ← text? message, ← text? reason, ← code? code⟩
  | _ => none

/-- A refusal in other words is quoted as it stands. -/
def refusal (status : Nat) (text : String) : Refusal :=
  ((parse? text).bind readRefusal).getD
    ⟨Http.statusLine status, Quoted.quote text, "Failed to parse error data", status⟩

/-- The text of a successful response. -/
def accepted : Http.Reply → Except ClusterFailure String
  | .broken links => .error (.unanswered links)
  | .response status body =>
    match Utf8.decode? body with
    | none => .error (.notText "invalid utf-8 sequence")
    | some text =>
      if Http.isFailure status then .error (.refused (refusal status text)) else .ok text

def decoded {α : Type} (read : Json → Option α) (reply : Http.Reply) : Except ClusterFailure α := do
  let text ← accepted reply
  match (parse? text).bind read with
  | some value => return value
  | none => throw (.undecodable "unexpected form")

def readListMetadata (json : Json) : Option Unit := do
  let members ← members? json
  let _ ← last? "continue" text? members
  let _ ← last? "remainingItemCount" Manifest.int64? members
  let _ ← last? "resourceVersion" text? members
  let _ ← last? "selfLink" text? members
  return ()

/-- The items of a list must be there, though they may be null. -/
def readList [Kind Body] (json : Json) : Option (List (Manifest Body)) := do
  let members ← members? json
  let others := members.filter fun member => member.1 ≠ "metadata" ∧ member.1 ≠ "items"
  let _ ← others.mapM (readMember value?)
  once? "metadata" () readListMetadata members
  let items ← required? "items" (nullable (list? Manifest.read)) members
  return items.getD []

/-- Sends a request unless its address is invalid, and reads the reply. -/
def exchange {α : Type} (form : Form) (read : Http.Reply → Except ClusterFailure α) :
    Http.Exchange (Except Cause α) :=
  match form.request with
  | .error failure => return .error (.cluster failure)
  | .ok request => do
    match read (← Http.send request) with
    | .ok value => return .ok value
    | .error failure => return .error (.cluster failure)

/-- Puts a call to the cluster. -/
def answer [Kind Body] (call : Call (Manifest Body)) :
    Http.Exchange (Call.Answer (Manifest Body) String Cause call) :=
  match call with
  | .get id => exchange (form (Call.get id : Call (Manifest Body))) (decoded Manifest.read)
  | .secondary id =>
    exchange (form (Call.secondary id : Call (Manifest Body))) fun reply =>
      (accepted reply).map some
  | .list scope => do
    let result ← exchange (form (Call.list scope : Call (Manifest Body))) (decoded readList)
    match result with
    | .ok items =>
      Program.log .trace .backend ("Listed " ++ toString items.length ++ " items")
      return .ok items
    | .error cause => return .error cause
  | .create scope payload => exchange (form (.create scope payload)) (decoded Manifest.read)
  | .update id payload => exchange (form (.update id payload)) (decoded Manifest.read)
  | .delete id =>
    exchange (form (Call.delete id : Call (Manifest Body))) fun reply =>
      (decoded value? reply).map fun _ => ()

/-- Holds a session with the cluster. -/
def serve {α : Type} [Kind Body] (session : Service.Session (Manifest Body) String Cause α) :
    Http.Exchange α :=
  let put := fun (call : Call (Manifest Body)) (_ : Unit) =>
    (answer call).bind fun reply => .done (reply, ())
  (session.translate put ()).bind fun result => .done result.1

end ClusterDesk.Rest
