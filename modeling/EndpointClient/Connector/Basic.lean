import EndpointClient.Config.Basic
import EndpointClient.Pipe
import EndpointClient.Text.Decimal

/-!
# EndpointClient.Connector.Basic

Connectors: what requests are sent through, and the capacity of the pipes they make.
-/

namespace EndpointClient

/-- A connector. Its pipes hold one byte at least. -/
structure Connector where
  pipeCapacity : Nat := Pipe.defaultCapacity
  deriving DecidableEq, Repr

namespace Connector

def name : String := "resilient-http engine connector/0.1.0"

def withPipeCapacity (_ : Connector) (capacity : Nat) : Connector := ⟨max capacity 1⟩

def ofConfig (c : ConnectorConfig) : Connector :=
  withPipeCapacity {} c.pipeBufferBytes

def debugText (c : Connector) : String :=
  "EngineConnector \x7b pipe_capacity: " ++ String.ofList (Text.natText c.pipeCapacity) ++ ", .. \x7d"

end Connector

end EndpointClient
