import EndpointClient.IoError
import EndpointClient.Text.Utf8
import EndpointClient.Word

/-!
# EndpointClient.Http.Body

Bodies as they arrive: chunk after chunk, where a chunk may be a failure.

* `Chunks.collect` reads a whole body, up to a limit of bytes.
* `Chunks.bytes` is what a body holds if no chunk fails, `Chunks.failure?` its first failure.
-/

namespace EndpointClient.Http

/-- A body: its chunks in order, some of which may be failures. -/
abbrev Chunks := List (Except IoError Bytes)

inductive BodyError where
  | broken (cause : IoError)
  | tooLong
  deriving DecidableEq, Repr

def BodyError.message : BodyError → String
  | .broken e => e.text
  | .tooLong => "length limit exceeded"

namespace Chunks

/-- The limit of those who set none. -/
def noLimit : Nat := Word.bound - 1

/-- A body of known bytes: one chunk, or none if there are no bytes. -/
def ofBytes : Bytes → Chunks
  | [] => []
  | bs => [.ok bs]

/-- Reads a whole body. It fails at the first chunk that is a failure or passes the limit. -/
def collect : (limit : Nat) → Chunks → Except BodyError Bytes
  | _, [] => .ok []
  | limit, .ok b :: rest =>
    if limit < b.length then .error .tooLong
    else (collect (limit - b.length) rest).map (b ++ ·)
  | _, .error e :: _ => .error (.broken e)

/-- The bytes of the chunks before the first failure. -/
def bytes : Chunks → Bytes
  | [] => []
  | .ok b :: rest => b ++ bytes rest
  | .error _ :: _ => []

def failure? : Chunks → Option IoError
  | [] => none
  | .ok _ :: rest => failure? rest
  | .error e :: _ => some e

end Chunks

end EndpointClient.Http
