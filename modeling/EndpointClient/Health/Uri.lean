import EndpointClient.Config.Validation
import EndpointClient.Http.Uri
import EndpointClient.Url.Parser

/-!
# EndpointClient.Health.Uri

The target of the probes of an endpoint, `scheme://hostname:port/path`.

* `EndpointConfig.healthUri` builds it. It has exactly the configured host, port and path, or there
  is none: a hostname that reads as more than a host is refused, and so is a path that would have to
  be written in another way.
-/

namespace EndpointClient

inductive HealthUriFault where
  | blankHostname
  | relativePath (path : String)
  | noUrl (e : UrlError)
  | otherTarget (url : String)
  | rewrittenPath (path : String)
  | noUri (e : Http.UriError)
  | zeroInterval
  deriving DecidableEq

def HealthUriFault.message : HealthUriFault → String
  | .blankHostname => "hostname is empty"
  | .relativePath p => "health path '" ++ p ++ "' must start with '/'"
  | .noUrl e => e.message
  | .otherTarget u => "'" ++ u ++ "' does not target the configured host and port"
  | .rewrittenPath p => "health path '" ++ p ++ "' is not a valid URI path"
  | .noUri e => e.message
  | .zeroInterval => "check interval must be greater than zero"

/-- An endpoint that cannot be probed, by its hostname. -/
structure InvalidEndpoint where
  hostname : String
  fault : HealthUriFault
  deriving DecidableEq

def InvalidEndpoint.message (e : InvalidEndpoint) : String :=
  "cannot build health URI for '" ++ e.hostname ++ "': " ++ e.fault.message

namespace EndpointConfig

/-- The parts of the target put together as they are configured. -/
def healthUrlText (c : EndpointConfig) : String :=
  c.scheme ++ "://" ++ c.hostname ++ ":" ++ String.ofList (Text.natText c.port.toNat) ++ c.healthPath

def expectedPath (c : EndpointConfig) : List Char :=
  if c.healthPath.isEmpty then ['/'] else c.healthPath.toList

def lowered (cs : List Char) : List Char := cs.map Char.toLower

def isTargetOf (c : EndpointConfig) (host : Host) (u : Url) : Bool :=
  lowered u.hostChars = lowered host.chars && u.effectivePort? = some c.port.toNat

def healthUriOrFault (c : EndpointConfig) : Except HealthUriFault Http.Uri :=
  if c.hasBlankHostname then .error .blankHostname
  else if c.hasRelativePath then .error (.relativePath c.healthPath)
  else
    match Url.parse c.healthUrlText with
    | .error e => .error (.noUrl e)
    | .ok u =>
      match Host.parse c.hostname.toList with
      | .error e => .error (.noUrl e)
      | .ok host =>
        if !c.isTargetOf host u then .error (.otherTarget u.text)
        else if u.resourceChars ≠ c.expectedPath then .error (.rewrittenPath c.healthPath)
        else
          match Http.Uri.parse u.text with
          | .ok uri => .ok uri
          | .error e => .error (.noUri e)

def healthUri (c : EndpointConfig) : Except InvalidEndpoint Http.Uri :=
  match c.healthUriOrFault with
  | .ok u => .ok u
  | .error f => .error ⟨c.hostname, f⟩

end EndpointConfig

end EndpointClient
