import EndpointClient.Http.Body
import EndpointClient.Http.Header
import EndpointClient.Http.Status

/-!
# EndpointClient.Http.Response

Responses: a status, header fields, and a body that is still to be read.

* `Response.readdressed` is what a caller is handed for a response of an engine: every field is
  appended anew, in order.
* `Response.bytes` and `Response.text` read the body up to a limit.
-/

namespace EndpointClient.Http

structure Response where
  status : StatusCode
  headers : HeaderMap
  body : Chunks
  deriving Inhabited

namespace Response

/-- The response that a caller is handed: the same status and body, and the fields appended one
by one. -/
def readdressed (r : Response) : Response := { r with headers := HeaderMap.ofList r.headers.toList }

def bytes (r : Response) (limit : Nat) : Except BodyError Bytes := r.body.collect limit

/-- The body as a text, with U+FFFD for what is no character. -/
def text (r : Response) (limit : Nat) : Except BodyError String :=
  (r.bytes limit).map Utf8.decodeLossy

end Response

end EndpointClient.Http
