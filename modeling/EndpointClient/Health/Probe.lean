import EndpointClient.Engine.Error
import EndpointClient.Engine.Request
import EndpointClient.Health.State
import EndpointClient.Health.Uri

/-!
# EndpointClient.Health.Probe

Probes of one resolved address of an endpoint: one request for the health path, of which only the
status of the answer matters.

* `ProbeTarget.ofConfig` is what an endpoint and an address give, or why they give nothing.
* `ProbeTarget.request` is what the engine is asked, `ProbeResult.state` what its answer means.
-/

namespace EndpointClient

structure ProbeTarget where
  hostname : String
  address : IpAddress
  uri : Http.Uri
  readTimeout : Option Duration

/-- What a probe came to: the status of an answer, or the failure of the engine. -/
abbrev ProbeResult := Except EngineError Http.StatusCode

def ProbeResult.state : ProbeResult → HealthState
  | .ok s => .ofStatus s
  | .error _ => .unhealthy

namespace ProbeTarget

def ofConfig (c : EndpointConfig) (address : IpAddress) : Except InvalidEndpoint ProbeTarget :=
  c.healthUri.map fun uri => ⟨c.hostname, address, uri, c.readTimeout⟩

def request (t : ProbeTarget) : EngineRequest := .get t.uri t.readTimeout

def display (t : ProbeTarget) (s : HealthState) : String :=
  t.hostname ++ " (" ++ t.address.text ++ ") via " ++ t.uri.text ++ ": " ++ s.text

end ProbeTarget

end EndpointClient
