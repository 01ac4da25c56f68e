import ClusterDesk.Url.Address

/-!
Addresses on the web. Main rule: the path of an address can be extended unless the address has no
segments, and a last segment that is empty gives way.
-/

namespace ClusterDesk

/-- The host of an address; a name may be empty where no host is needed. -/
inductive Url.Host where
  | name (text : String)
  | ipv4 (address : Nat)
  | ipv6 (groups : List Nat)
  deriving DecidableEq, Repr

inductive Url.Path where
  /-- A text without segments, to which nothing is relative. -/
  | rootless (text : String)
  | rooted (segments : List String)
  deriving DecidableEq, Repr

/-- An address, all parts in their escaped form. -/
structure Url where
  scheme : String
  username : String := ""
  password : Option String := none
  host : Option Url.Host := none
  port : Option Nat := none
  path : Url.Path
  query : Option String := none
  fragment : Option String := none
  deriving DecidableEq, Repr

/-- Why a text is no address. -/
inductive Url.Fault where
  | emptyHost
  | internationalName
  | port
  | ipv4
  | ipv6
  | hostCharacter
  | noScheme
  | rootless
  deriving DecidableEq, Repr

namespace Url

def Fault.message : Fault → String
  | emptyHost => "empty host"
  | internationalName => "invalid international domain name"
  | port => "invalid port number"
  | ipv4 => "invalid IPv4 address"
  | ipv6 => "invalid IPv6 address"
  | hostCharacter => "invalid domain character"
  | noScheme => "relative URL without a base"
  | rootless => "relative URL with a cannot-be-a-base base"

def Host.text : Host → String
  | name text => text
  | ipv4 address => ipv4Text address
  | ipv6 groups => "[" ++ ipv6Text groups ++ "]"

def credentials (url : Url) : String :=
  match url.password with
  | some password => url.username ++ ":" ++ password ++ "@"
  | none => if url.username = "" then "" else url.username ++ "@"

/-- User, host and port. -/
def authority (url : Url) : String :=
  match url.host with
  | none => ""
  | some host =>
    "//" ++ url.credentials ++ host.text ++ (url.port.elim "" fun port => ":" ++ toString port)

def Path.text : Path → String
  | rootless text => text
  | rooted segments => String.join (segments.map ("/" ++ ·))

/-- Without a host, an empty first segment is kept apart from the slashes of an authority. -/
def guard (url : Url) : String :=
  match url.host, url.path with
  | none, .rooted ("" :: _ :: _) => "/."
  | _, _ => ""

/-- Path and query, as they are asked for. -/
def target (url : Url) : String := url.path.text ++ url.query.elim "" ("?" ++ ·)

def text (url : Url) : String :=
  url.scheme ++ ":" ++ url.authority ++ url.guard ++ url.target ++ url.fragment.elim "" ("#" ++ ·)

/-- The segments to which others are added: not the empty one after a last slash. -/
def stem (segments : List String) : List String :=
  let kept :=
    if 1 < segments.length ∧ segments.getLast? = some "" then segments.dropLast else segments
  if kept = [""] then [] else kept

/-- The address below this one. -/
def below (url : Url) (names : List String) : Except Fault Url :=
  match url.path with
  | .rootless _ => .error .rootless
  | .rooted segments => .ok { url with path := .rooted (stem segments ++ names) }

end Url

end ClusterDesk
