import EndpointClient.Config.Basic
import EndpointClient.Text.Blank

/-!
# EndpointClient.Config.Validation

What the types of a configuration cannot say: every problem is found, endpoint by endpoint and in a
fixed order.

* `ClientConfig.problems` lists them; a configuration is valid if there are none.
-/

namespace EndpointClient

inductive ConfigProblem where
  | emptyHostname (index : Nat)
  | relativeHealthPath (name path : String)
  | duplicateName (name : String)
  | noAddresses (name : String)
  | zeroPipeBuffer
  deriving DecidableEq, Repr

namespace ConfigProblem

def kind : ConfigProblem → String
  | .emptyHostname _ => "EmptyHostname"
  | .relativeHealthPath _ _ => "RelativeHealthPath"
  | .duplicateName _ => "DuplicateName"
  | .noAddresses _ => "NoAddresses"
  | .zeroPipeBuffer => "ZeroPipeBuffer"

def message : ConfigProblem → String
  | .emptyHostname i => "endpoint #" ++ String.ofList (Text.natText i) ++ " has an empty hostname"
  | .relativeHealthPath n p => "endpoint '" ++ n ++ "' health path '" ++ p ++ "' must start with '/'"
  | .duplicateName n => "endpoint name '" ++ n ++ "' is used more than once"
  | .noAddresses n => "endpoint '" ++ n ++ "' has no addresses"
  | .zeroPipeBuffer => "connector pipe buffer must be greater than zero"

/-- What is said of all problems of a configuration together. -/
def summary (ps : List ConfigProblem) : String :=
  "Validation failed: " ++ ", ".intercalate (ps.map message)

end ConfigProblem

namespace EndpointConfig

def hasBlankHostname (c : EndpointConfig) : Bool := Text.isBlankText c.hostname.toList

/-- Whether the health path is there and does not start with `/`. -/
def hasRelativePath (c : EndpointConfig) : Bool :=
  match c.healthPath.toList with
  | [] => false
  | ch :: _ => ch != '/'

/-- The problems of the endpoint at an index, after endpoints of the given names. -/
def problems (names : List String) (index : Nat) (c : EndpointConfig) : List ConfigProblem :=
  (if c.hasBlankHostname then [.emptyHostname index] else []) ++
  (if c.hasRelativePath then [.relativeHealthPath c.name c.healthPath] else []) ++
  (if names.contains c.name then [.duplicateName c.name] else []) ++
  (if c.addresses.isEmpty then [.noAddresses c.name] else [])

/-- The problems of endpoints that stand from an index on, after endpoints of the given names. -/
def problemsFrom : (names : List String) → (index : Nat) → List EndpointConfig → List ConfigProblem
  | _, _, [] => []
  | names, index, c :: rest =>
    c.problems names index ++ problemsFrom (c.name :: names) (index + 1) rest

end EndpointConfig

/-- The problems of a configuration: those of its endpoints in order, and last the connector's. -/
def ClientConfig.problems (c : ClientConfig) : List ConfigProblem :=
  EndpointConfig.problemsFrom [] 0 c.endpoints ++
    (if c.connector.pipeBufferBytes = 0 then [.zeroPipeBuffer] else [])

end EndpointClient
