import EndpointClient.Http.Framing

/-!
# EndpointClient.Http.RequestHead

The head of a request as it is sent: its first line and its fields, with the host and what the
fields say of the body.
-/

namespace EndpointClient.Http

/-- The head of a request on a connection, and how its body is sent. -/
structure RequestHead where
  line : String
  headers : HeaderMap
  framing : RequestFraming
  deriving DecidableEq

namespace RequestHead

/-- Fields that ask a server of an older version to keep the connection. -/
def keepOpen (h : HeaderMap) : HeaderMap :=
  if h.keepsConnection false then h else h.set .connection (.ofChars "keep-alive".toList)

/-- The head of a request to a server of a newer or an older version. A host that the caller gave
is kept. -/
def of (method : Method) (u : Uri) (h : HeaderMap) (size : BodySize) (older : Bool) : RequestHead :=
  let h := h.setDefault .host (.ofChars u.hostField)
  let h := if older then keepOpen h else h
  let (framing, h) := RequestFraming.of method h size older
  let version := if older then " HTTP/1.0" else " HTTP/1.1"
  ⟨method.text ++ " " ++ String.ofList (u.wireTarget method) ++ version, h, framing⟩

/-- Whether a server that has got so much of the body has the whole request. -/
def isWhole (r : RequestHead) (body : Bytes) : Bool :=
  match r.framing with
  | .chunked => true
  | .sized _ => r.headers.contentLength?.all (· ≤ body.length)

end RequestHead

end EndpointClient.Http
