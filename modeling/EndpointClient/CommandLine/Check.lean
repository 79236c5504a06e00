import EndpointClient.CommandLine.Program
import EndpointClient.CommandLine.Tool

/-!
# EndpointClient.CommandLine.Check

What `check` does with its arguments: the endpoint that it probes, and the code that it ends with.
-/

namespace EndpointClient.CommandLine

namespace CheckArguments

def endpoint (a : CheckArguments) : EndpointConfig :=
  { EndpointConfig.ofHost a.host with
      port := a.port, healthPath := a.path, scheme := a.scheme, readTimeoutMs := a.timeoutMs }

def exitCode (s : HealthState) : Nat := if s.isHealthy then exitSuccess else exitFailure

end CheckArguments

def ToolArguments.observability (a : ToolArguments) : ObservabilityConfig :=
  { logLevel := a.logLevel }

end EndpointClient.CommandLine
