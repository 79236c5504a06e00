import EndpointClient.Duration
import EndpointClient.Net.Address

/-!
# EndpointClient.Config.Basic

The configuration of a client: the endpoints it watches, its connector, and what it reports.
Each part has a value for every key that is left out.
-/

namespace EndpointClient

/-- One logical server, and how its addresses are probed. -/
structure EndpointConfig where
  /-- The identifier in logs and metrics. -/
  name : String := ""
  /-- The logical name of the server, as it stands in the health URI. -/
  hostname : String := ""
  port : UInt16 := 443
  /-- The path that probes ask for. -/
  healthPath : String := "/health"
  scheme : String := "https"
  /-- Milliseconds that a probe may take; none if negative. -/
  readTimeoutMs : Int := -1
  /-- Seconds between probes; one probe only if zero. -/
  checkIntervalSecs : Nat := 0
  /-- The resolved addresses, each with a monitor of its own. -/
  addresses : List IpAddress := []
  deriving DecidableEq

namespace EndpointConfig

/-- The configuration of a host that gives nothing but its name. -/
def ofHost (host : String) : EndpointConfig := { name := host, hostname := host }

/-- How long a probe may take, if that is limited. -/
def readTimeout (c : EndpointConfig) : Option Duration :=
  if 0 ≤ c.readTimeoutMs then some (.ofMillis c.readTimeoutMs.toNat) else none

/-- The time between probes, if there is more than one. -/
def checkInterval (c : EndpointConfig) : Option Duration :=
  if 0 < c.checkIntervalSecs then some (.ofSecs c.checkIntervalSecs 0) else none

end EndpointConfig

structure ConnectorConfig where
  /-- The capacity of the pipe that a streamed body goes through. -/
  pipeBufferBytes : Nat := 8192
  deriving DecidableEq

structure ObservabilityConfig where
  logLevel : String := "info"
  metricsEnabled : Bool := false
  metricsAddress : String := "127.0.0.1:9090"
  /-- Seconds between health summaries. -/
  reportIntervalSecs : Nat := 10
  deriving DecidableEq

namespace ObservabilityConfig

/-- The filter for log events that a level stands for: it holds for this program's own events,
and warnings only are let through from the transport. -/
def defaultFilter (c : ObservabilityConfig) : String :=
  "resilient_http=" ++ c.logLevel ++ ",hyper_util=warn"

end ObservabilityConfig

structure ClientConfig where
  endpoints : List EndpointConfig := []
  connector : ConnectorConfig := {}
  observability : ObservabilityConfig := {}
  deriving DecidableEq

end EndpointClient
