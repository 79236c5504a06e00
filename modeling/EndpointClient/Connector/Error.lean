import EndpointClient.Engine.Error
import EndpointClient.IoError
import EndpointClient.Text.Quoted

/-!
# EndpointClient.Connector.Error

Why a request came to nothing, for those who sent it.

* `ConnectorError.ofEngine` is the error for a failure of the engine.
* `ConnectorError.ofPanic` and `ConnectorError.interrupted` are the errors for a task that broke off.
-/

namespace EndpointClient

inductive ConnectorError where
  | sendFailure (cause : EngineError)
  | interrupted
  | streamingFailure (cause : IoError)
  deriving DecidableEq, Repr

namespace ConnectorError

def message : ConnectorError → String
  | .sendFailure e => "the sending process failed: " ++ e.message
  | .interrupted => "the sending process was interrupted"
  | .streamingFailure e => "streaming the request body failed: " ++ e.text

def kind : ConnectorError → String
  | .sendFailure _ => "send_failure"
  | .interrupted => "interrupted"
  | .streamingFailure _ => "streaming_failure"

/-- The error for a failure of the engine. A cancelled exchange is an interruption. -/
def ofEngine : EngineError → ConnectorError
  | .cancelled => .interrupted
  | e => .sendFailure e

/-- The error for a task that broke down with a message. Tasks have no numbers here: `#` stands in
the place of one. -/
def ofPanic (text : String) : ConnectorError :=
  .sendFailure (.transport ("send task failed: task # panicked with message " ++ Text.quote text))

end ConnectorError

end EndpointClient
