import ClusterDesk.Http
import ClusterDesk.Json.Parser
import ClusterDesk.Json.Printer
import ClusterDesk.Settings

/-!
The settings server on the web: the settings are one resource below the base address, read and
replaced as a whole.
-/

namespace ClusterDesk

/-- Where the settings are, and the token to show there. -/
structure SettingsRemote where
  endpoint : Url
  token : Option String := none
  deriving DecidableEq, Repr

namespace SettingsRemote

def ofBase (base : Url) (token : Option String) : Except Url.Fault SettingsRemote := do
  return { endpoint := ← base.below ["api", "settings"], token }

def isHeaderText (text : String) : Bool :=
  text.toList.all fun c => c = '\t' || (decide (32 ≤ c.toNat) && c.toNat ≠ 127)

def badScheme (remote : SettingsRemote) : ServerFailure :=
  .badScheme { remote.endpoint with username := "", password := none }.text

def hasHost (url : Url) : Bool := url.host.isSome && url.host ≠ some (.name "")

/-- Why nothing can be sent, if so. -/
def obstacle (remote : SettingsRemote) : Option ServerFailure :=
  if !hasHost remote.endpoint then some remote.badScheme
  else if !(remote.token.all isHeaderText) then some .badToken
  else if remote.endpoint.scheme = "http" ∨ remote.endpoint.scheme = "https" then none
  else some remote.badScheme

def request (remote : SettingsRemote) (settings : Option Settings) : Http.Request where
  method := if settings.isSome then .put else .get
  target := remote.endpoint.target
  accept := "*/*"
  contentType := settings.map fun _ => "application/json"
  authorization := remote.token.map fun token => Http.headerValue ("Bearer " ++ token)
  body := settings.elim "" fun settings => Json.compact settings.write

/-- A code other than success is told with the text of the response. -/
def outcome : Http.Reply → Except Cause Settings
  | .broken links => .error (.server (.unsent (": ".intercalate links)))
  | .response code body =>
    if Http.isSuccess code then
      match (Json.ofBytes? body).bind Settings.read with
      | some settings => .ok settings
      | none => .error (.server (.undecodable "unexpected form"))
    else .error (.status code (Utf8.decodeLossy body))

/-- Reads the settings, or replaces them by those given; answers with what the server holds. -/
def exchange (remote : SettingsRemote) (settings : Option Settings) :
    Http.Exchange (Except Cause Settings) :=
  match remote.obstacle with
  | some failure => return .error (.server failure)
  | none => do return outcome (← Http.send (remote.request settings)).received

end SettingsRemote

end ClusterDesk
