import ClusterDesk.Domain
import ClusterDesk.Text.Percent
import ClusterDesk.Url

/-!
Addresses read from text. Web addresses and files have hosts and paths of a stricter form than
others; escapes, case and steps to the parent are put in order.
-/

namespace ClusterDesk.Url

/-- The port that is meant when none is given. -/
def usualPort (scheme : String) : Option Nat :=
  if scheme = "http" ∨ scheme = "ws" then some 80
  else if scheme = "https" ∨ scheme = "wss" then some 443
  else if scheme = "ftp" then some 21
  else none

/-- Schemes whose addresses have a host and a path. -/
def isSpecial (scheme : String) : Bool := (usualPort scheme).isSome || scheme = "file"

def inFragment : String := " \"<>\x60"
def inPath : String := inFragment ++ "#?\x7b\x7d"
def inCredentials : String := inPath ++ "/:;=@[\\]^|"
def inQuery : String := " \"#<>"
def inSpecialQuery : String := inQuery ++ "'"

/-- Controls and blanks around an address do not count, line breaks and tabs nowhere. -/
def clean (text : String) : List Char :=
  (Split.trim (fun c => decide (c.toNat ≤ 32)) text.toList).filter fun c =>
    c ≠ '\t' ∧ c ≠ '\n' ∧ c ≠ '\r'

def isSchemeChar (c : Char) : Bool := c.isAlphanum || c = '+' || c = '-' || c = '.'

/-- The scheme in lower case, and what comes after its colon. -/
def scheme? (text : List Char) : Option (String × List Char) :=
  match text with
  | first :: _ =>
    if first.isAlpha then
      match text.dropWhile isSchemeChar with
      | ':' :: rest =>
        some (String.ofList ((text.takeWhile isSchemeChar).map Char.toLower), rest)
      | _ => none
    else none
  | [] => none

def isSlash (special : Bool) (c : Char) : Bool := c = '/' || (special && c = '\\')

/-- Whether an authority ends before `c`. -/
def endsAuthority (special : Bool) (c : Char) : Bool := isSlash special c || c = '?' || c = '#'

/-- What comes before and after the last `@`. -/
def atCredentials (text : List Char) : Option (List Char × List Char) :=
  let reversed := text.reverse
  match reversed.dropWhile (· ≠ '@') with
  | [] => none
  | _ :: before => some (before.reverse, (reversed.takeWhile (· ≠ '@')).reverse)

/-- The host is up to a colon that is not in brackets. -/
def hostLength : Bool → List Char → Nat
  | _, [] => 0
  | bracketed, c :: rest =>
    if c = ':' && !bracketed then 0
    else hostLength (if c = '[' then true else if c = ']' then false else bracketed) rest + 1

def bracketed? (text : List Char) : Option (Except Fault Host) :=
  match text with
  | '[' :: rest =>
    match rest.reverse with
    | ']' :: inner =>
      match ipv6? inner.reverse with
      | some groups => some (.ok (.ipv6 groups))
      | none => some (.error .ipv6)
    | _ => some (.error .ipv6)
  | _ => none

/-- The host of a web address or file. -/
def specialHost (text : List Char) : Except Fault Host :=
  match bracketed? text with
  | some result => result
  | none =>
    match Domain.plain? (Utf8.decodeLossy (Percent.decode text)) with
    | none => .error .internationalName
    | some name =>
      if name = "" then .error .emptyHost
      else if endsInNumber name.toList then
        match ipv4? name.toList with
        | some address => .ok (.ipv4 address)
        | none => .error .ipv4
      else .ok (.name name)

/-- The host of any other address. -/
def otherHost (text : List Char) : Except Fault Host :=
  match bracketed? text with
  | some result => result
  | none =>
    if text.any ("\x00\t\n\r #/:<>?@[\\]^|".toList.contains ·) then .error .hostCharacter
    else .ok (.name (String.ofList (Percent.encode "" text)))

/-- The port, none if it is the usual one. -/
def port? (usual : Option Nat) (text : List Char) : Except Fault (Option Nat) :=
  if text.isEmpty then .ok none
  else match numberIn? 10 text with
    | some port =>
      if 65535 < port then .error .port else .ok (if usual = some port then none else some port)
    | none => .error .port

def isDrive (normal : Bool) (segment : List Char) : Bool :=
  match segment with
  | [letter, mark] => letter.isAlpha && (mark = ':' || (!normal && mark = '|'))
  | _ => false

def lower (segment : List Char) : List Char := segment.map Char.toLower

def isHere (segment : List Char) : Bool :=
  ["." , "%2e"].any (·.toList = lower segment)

def isParent (segment : List Char) : Bool :=
  ["..", "%2e.", ".%2e", "%2e%2e"].any (·.toList = lower segment)

/-- The path without its last segment; the drive of a file stays. -/
def parent (file : Bool) (path : List String) : List String :=
  if file && path.length = 1 && path.any (isDrive true ·.toList) then path else path.dropLast

/-- Goes on by one segment; `last` says whether it is the last one. -/
def enter (file last : Bool) (path : List String) (segment : List Char) : List String :=
  if isParent segment then
    let up := parent file path
    if last then up ++ [""] else up
  else if isHere segment then if last then path ++ [""] else path
  else if file && path.isEmpty && isDrive false segment then
    path ++ [String.ofList (segment.take 1 ++ [':'])]
  else path ++ [String.ofList (Percent.encode inPath segment)]

def enterAll (file : Bool) (path : List String) : List (List Char) → List String
  | [] => path
  | [segment] => enter file true path segment
  | segment :: rest => enterAll file (enter file false path segment) rest

def segmentsOf (special : Bool) (text : List Char) : List (List Char) :=
  Split.pieces '/' (if special then text.map fun c => if c = '\\' then '/' else c else text)

/-- The segments after the first slash. -/
def segments (scheme : String) (text : List Char) : List String :=
  enterAll (scheme = "file") [] (segmentsOf (isSpecial scheme) text)

def dropSlash (special : Bool) (text : List Char) : List Char :=
  match text with
  | c :: rest => if isSlash special c then rest else text
  | [] => []

/-- Query and fragment, each without its mark. -/
def tail (scheme : String) (text : List Char) : Option String × Option String :=
  let beforeHash := text.takeWhile (· ≠ '#')
  let fragment := match text.dropWhile (· ≠ '#') with
    | _ :: rest => some (String.ofList (Percent.encode inFragment rest))
    | [] => none
  let query := match beforeHash with
    | '?' :: rest =>
      some (String.ofList
        (Percent.encode (if isSpecial scheme then inSpecialQuery else inQuery) rest))
    | _ => none
  (query, fragment)

def isMark (c : Char) : Bool := c = '?' || c = '#'

def unmarked (text : List Char) : List Char := text.takeWhile (!isMark ·)

def marked (text : List Char) : List Char := text.dropWhile (!isMark ·)

/-- A path that follows an authority; a web address has at least the root. -/
def hostedPath (scheme : String) (text : List Char) : Path :=
  if text.isEmpty && !isSpecial scheme then .rooted []
  else .rooted (segments scheme (dropSlash (isSpecial scheme) text))

/-- Name and password of the user. -/
def userOf (text : List Char) : String × Option String :=
  let escape := fun (part : List Char) => String.ofList (Percent.encode inCredentials part)
  let name := escape (text.takeWhile (· ≠ ':'))
  match text.dropWhile (· ≠ ':') with
  | _ :: second :: rest => (name, some (escape (second :: rest)))
  | _ => (name, none)

/-- An address whose text goes on after the double slash. -/
def hosted (scheme : String) (text : List Char) : Except Fault Url := do
  let special := isSpecial scheme
  let inside := text.takeWhile (!endsAuthority special ·)
  let after := text.dropWhile (!endsAuthority special ·)
  let (user, place) := match atCredentials inside with
    | some (before, rest) => (some before, rest)
    | none => (none, inside)
  if (user = some [] ∧ place.isEmpty ∧ !after.isEmpty) then throw .emptyHost
  let (username, password) := userOf (user.getD [])
  let length := hostLength false place
  let name := place.take length
  let colon := place.drop length
  if special ∧ name.isEmpty then throw .emptyHost
  let host ← if special then specialHost name else otherHost name
  if name.isEmpty ∧ !colon.isEmpty then throw .emptyHost
  let port ← port? (usualPort scheme) (colon.drop 1)
  if name.isEmpty ∧ (username ≠ "" ∨ password.isSome) then throw .emptyHost
  let (query, fragment) := tail scheme (marked after)
  return {
    scheme, username, password, host := some host, port
    path := hostedPath scheme (unmarked after), query, fragment }

/-- The path of a file starts with no empty segment. -/
def filePath (text : List Char) : List String :=
  match (segments "file" text).dropWhile (· = "") with
  | [] => [""]
  | found => found

/-- An address of a file, from what follows the colon of the scheme. -/
def file (text : List Char) : Except Fault Url := do
  let (query, fragment) := tail "file" (marked text)
  let start := unmarked text
  let bare := fun (rest : List Char) =>
    { scheme := "file", host := some (.name ""), path := .rooted (filePath rest), query,
      fragment : Url }
  match start with
  | a :: b :: rest =>
    if isSlash true a && isSlash true b then
      let name := rest.takeWhile (!isSlash true ·)
      if isDrive false name then return bare rest
      else
        let host ← if name.isEmpty then pure (Host.name "") else specialHost name
        let found := filePath (dropSlash true (rest.dropWhile (!isSlash true ·)))
        let near := host = .name "localhost" ∨ found.head?.any (isDrive true ·.toList)
        return {
          scheme := "file", host := some (if near then .name "" else host),
          path := .rooted found, query, fragment }
    else return bare (dropSlash true start)
  | _ => return bare (dropSlash true start)

/-- An address of another kind without an authority. -/
def unhosted (scheme : String) (text : List Char) : Url :=
  let (query, fragment) := tail scheme (marked text)
  let path := match unmarked text with
    | '/' :: rest => Path.rooted (segments scheme rest)
    | start => .rootless (String.ofList (Percent.encode "" start))
  { scheme, path, query, fragment }

def parse (text : String) : Except Fault Url :=
  match scheme? (clean text) with
  | none => .error .noScheme
  | some (scheme, rest) =>
    if scheme = "file" then file rest
    else if isSpecial scheme then hosted scheme (rest.dropWhile (isSlash true))
    else
      match rest with
      | '/' :: '/' :: after => hosted scheme after
      | _ => .ok (unhosted scheme rest)

end ClusterDesk.Url
