import EndpointClient.Http.RequestHead
import EndpointClient.Http.ResponseBody

/-!
# EndpointClient.Http.RequestBytes

Requests as bytes on a connection: the head line by line, and the body as its framing says.

* `RequestHead.bytes` is the head, `RequestFraming.encode` the body.
* `ChunkedBody.encode` writes chunks, each behind a line with its size.
-/

namespace EndpointClient.Http

def lineFeed : Bytes := [13, 10]

def RequestHead.bytes (r : RequestHead) : Bytes :=
  let fields := r.headers.toList.flatMap fun f =>
    Utf8.encode f.1.text ++ [58, 32] ++ f.2.bytes ++ lineFeed
  Utf8.encode r.line ++ lineFeed ++ fields ++ lineFeed

namespace ChunkedBody

def hexByte (d : Nat) : UInt8 := if d < 10 then (48 + d).toUInt8 else (87 + d).toUInt8

/-- A number in hexadecimal digits, the most significant first. -/
def hexBytes (n : Nat) : Bytes :=
  if n < 16 then [hexByte n] else hexBytes (n / 16) ++ [hexByte (n % 16)]

def sizeLine (n : Nat) : Bytes := hexBytes n ++ lineFeed

/-- A body in chunks. Empty parts are left out, since an empty chunk is the last one. -/
def encode (parts : List Bytes) : Bytes :=
  (parts.filter (!·.isEmpty)).flatMap (fun p => sizeLine p.length ++ p ++ lineFeed) ++
    sizeLine 0 ++ lineFeed

end ChunkedBody

def RequestFraming.encode (f : RequestFraming) (body : Bytes) : Bytes :=
  match f with
  | .sized n => body.take n
  | .chunked => ChunkedBody.encode [body]

end EndpointClient.Http
