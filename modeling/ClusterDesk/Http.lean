import ClusterDesk.Program
import ClusterDesk.Text.Split
import ClusterDesk.Text.Utf8

/-!
Requests to web servers and what comes back for them.
-/

namespace ClusterDesk.Http

inductive Method where
  | get | post | put | delete
  deriving DecidableEq, Repr

def Method.name : Method → String
  | get => "GET"
  | post => "POST"
  | put => "PUT"
  | delete => "DELETE"

structure Request where
  method : Method
  /-- Path and query. -/
  target : String
  accept : String
  contentType : Option String := none
  authorization : Option String := none
  body : String := ""
  deriving DecidableEq, Repr

inductive Reply where
  | response (status : Nat) (body : List UInt8)
  /-- No response, with the links that tell why. -/
  | broken (links : List String)
  deriving DecidableEq, Repr

/-- A response that says that there is nothing new comes without a body. -/
def Reply.received : Reply → Reply
  | response status body => response status (if status = 204 ∨ status = 304 then [] else body)
  | broken links => broken links

/-- A header value goes without the blanks around it. -/
def headerValue (text : String) : String :=
  String.ofList (Split.trim (fun c => c = ' ' || c = '\t') text.toList)

/-- Programs that exchange requests for replies. -/
abbrev Exchange (α : Type) : Type := Program Request (fun _ => Reply) α

def send (request : Request) : Exchange Reply := Program.query request

/-- The phrases that go with status codes of failure. -/
def phrase? : Nat → Option String
  | 400 => some "Bad Request"
  | 401 => some "Unauthorized"
  | 402 => some "Payment Required"
  | 403 => some "Forbidden"
  | 404 => some "Not Found"
  | 405 => some "Method Not Allowed"
  | 406 => some "Not Acceptable"
  | 407 => some "Proxy Authentication Required"
  | 408 => some "Request Timeout"
  | 409 => some "Conflict"
  | 410 => some "Gone"
  | 411 => some "Length Required"
  | 412 => some "Precondition Failed"
  | 413 => some "Payload Too Large"
  | 414 => some "URI Too Long"
  | 415 => some "Unsupported Media Type"
  | 416 => some "Range Not Satisfiable"
  | 417 => some "Expectation Failed"
  | 418 => some "I'm a teapot"
  | 421 => some "Misdirected Request"
  | 422 => some "Unprocessable Entity"
  | 423 => some "Locked"
  | 424 => some "Failed Dependency"
  | 425 => some "Too Early"
  | 426 => some "Upgrade Required"
  | 428 => some "Precondition Required"
  | 429 => some "Too Many Requests"
  | 431 => some "Request Header Fields Too Large"
  | 451 => some "Unavailable For Legal Reasons"
  | 500 => some "Internal Server Error"
  | 501 => some "Not Implemented"
  | 502 => some "Bad Gateway"
  | 503 => some "Service Unavailable"
  | 504 => some "Gateway Timeout"
  | 505 => some "HTTP Version Not Supported"
  | 506 => some "Variant Also Negotiates"
  | 507 => some "Insufficient Storage"
  | 508 => some "Loop Detected"
  | 510 => some "Not Extended"
  | 511 => some "Network Authentication Required"
  | _ => none

/-- A status code with its phrase. -/
def statusLine (code : Nat) : String :=
  toString code ++ " " ++ (phrase? code).getD "<unknown status code>"

def isSuccess (code : Nat) : Bool := decide (200 ≤ code ∧ code < 300)

def isFailure (code : Nat) : Bool := decide (400 ≤ code ∧ code < 600)

def isTargetByte (query : Bool) (byte : UInt8) : Bool :=
  byte = 0x21 || (0x24 ≤ byte && byte ≤ 0x3b) || byte = 0x3d || (0x40 ≤ byte && byte ≤ 0x5f) ||
    (0x61 ≤ byte && byte ≤ 0x7a) || byte = 0x7c || 0x7e ≤ byte ||
    (if query then byte = 0x3f || byte = 0x60 || byte = 0x7b || byte = 0x7d
      else byte = 0x22 || byte = 0x7b || byte = 0x7d)

/-- A path with a query as a target; a hash and what follows it is left out. -/
def target (address : String) : Except String String :=
  let sent := address.toList.takeWhile (· ≠ '#')
  let path := sent.takeWhile (· ≠ '?')
  let query := (sent.dropWhile (· ≠ '?')).drop 1
  let fits := fun (query : Bool) (text : List Char) =>
    (Utf8.encode (String.ofList text)).all (isTargetByte query)
  if 65534 < address.utf8ByteSize then .error "uri too long"
  else if fits false path && fits true query then .ok (String.ofList sent)
  else .error "invalid uri character"

end ClusterDesk.Http
