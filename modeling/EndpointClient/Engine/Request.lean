import EndpointClient.Duration
import EndpointClient.Http.Header
import EndpointClient.Http.Method
import EndpointClient.Http.Uri

/-!
# EndpointClient.Engine.Request

What an engine is asked to do, the body apart: method, target, header fields, and how long it may
take until the head of a response is there.
-/

namespace EndpointClient

/-- A request as an engine gets it. The body goes beside it. -/
structure EngineRequest where
  method : Http.Method
  uri : Http.Uri
  headers : Http.HeaderMap
  timeout : Option Duration

structure WireRequest where
  method : Http.Method
  uri : Http.Uri
  headers : Http.HeaderMap

namespace EngineRequest

def get (uri : Http.Uri) (timeout : Option Duration) : EngineRequest :=
  ⟨.get, uri, .empty, timeout⟩

/-- The request that goes over the wire, and the time to enforce around it. -/
def split (r : EngineRequest) : WireRequest × Option Duration :=
  (⟨r.method, r.uri, r.headers⟩, r.timeout)

end EngineRequest

end EndpointClient
