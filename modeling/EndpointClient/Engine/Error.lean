import EndpointClient.Duration

/-!
# EndpointClient.Engine.Error

Why an engine could not carry out an exchange.
-/

namespace EndpointClient

inductive EngineError where
  | timeout (after : Duration)
  | transport (text : String)
  | cancelled
  | invalidRequest (text : String)
  deriving DecidableEq, Repr

namespace EngineError

def message : EngineError → String
  | .timeout d => "request timed out after " ++ d.text
  | .transport t => "transport error: " ++ t
  | .cancelled => "request was cancelled"
  | .invalidRequest t => "invalid request: " ++ t

def isTimeout : EngineError → Bool
  | .timeout _ => true
  | _ => false

end EngineError

end EndpointClient
