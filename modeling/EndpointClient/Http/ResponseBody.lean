import EndpointClient.Http.Body
import EndpointClient.Http.ResponseHead

/-!
# EndpointClient.Http.ResponseBody

Response bodies as they arrive on a connection.

* `ResponseFraming.decode` gives the chunks that arrived, and how the body ended.
* `ChunkedBody.size` reads the line before a chunk, `ChunkedBody.decode` all chunks to the last.
-/

namespace EndpointClient.Http

/-- How a body ended: complete, with the bytes after it, broken off, or not yet. -/
inductive BodyFinish where
  | complete (rest : Bytes)
  | broken
  | pending
  deriving DecidableEq, Repr

/-- A body as it arrived. -/
structure ArrivedBody where
  parts : List Bytes
  finish : BodyFinish

namespace ArrivedBody

def failure : IoError := ⟨.unexpectedEof, "error reading a body from connection"⟩

def chunks (b : ArrivedBody) : Chunks :=
  (b.parts.filter (!·.isEmpty)).map .ok ++
    match b.finish with
    | .broken => [.error failure]
    | _ => []

/-- A body of which all that will come has come, up to the given bytes. -/
def cut (parts : List Bytes) (closed : Bool) : ArrivedBody :=
  ⟨parts, if closed then .broken else .pending⟩

def cons (part : Bytes) (b : ArrivedBody) : ArrivedBody := { b with parts := part :: b.parts }

/-- A body whose connection breaks. If it was complete before, nothing of it is lost. -/
def breakOff (b : ArrivedBody) : ArrivedBody :=
  match b.finish with
  | .pending => { b with finish := .broken }
  | _ => b

end ArrivedBody

namespace ChunkedBody

def hexDigit? (b : UInt8) : Option Nat :=
  if 48 ≤ b && b ≤ 57 then some (b.toNat - 48)
  else if 97 ≤ b && b ≤ 102 then some (b.toNat - 87)
  else if 65 ≤ b && b ≤ 70 then some (b.toNat - 55)
  else none

/-- Reads the rest of a line that ends with a carriage return and a line feed. -/
def extension : Bytes → Scan Unit
  | [] => .more
  | 13 :: rest => Scan.literal [10] rest
  | 10 :: _ => .bad
  | _ :: rest => extension rest

/-- Reads the blanks and the extension behind a size. -/
def sizeEnd : Bytes → Scan Unit
  | [] => .more
  | 13 :: rest => Scan.literal [10] rest
  | 59 :: rest => extension rest
  | b :: rest => if ResponseHead.isGap b then sizeEnd rest else .bad

/-- Reads the rest of a size after some of its digits. -/
def sizeFrom (n : Nat) : Bytes → Scan Nat
  | [] => .more
  | b :: rest =>
    match hexDigit? b with
    | some d => if Word.holds (n * 16 + d) then sizeFrom (n * 16 + d) rest else .bad
    | none => (sizeEnd (b :: rest)).andThen fun _ r => .got n r

/-- Reads the line before a chunk: the size of the chunk. -/
def size : Bytes → Scan Nat
  | [] => .more
  | b :: rest => if (hexDigit? b).isSome then sizeFrom 0 (b :: rest) else .bad

/-- Reads chunks, of which there are at most as many as the bound says, to the last one and the
fields behind it. -/
def decode (closed : Bool) : (bound : Nat) → Bytes → ArrivedBody
  | 0, _ => .cut [] closed
  | bound + 1, bs =>
    match size bs with
    | .more => .cut [] closed
    | .bad => ⟨[], .broken⟩
    | .got 0 rest =>
      match ResponseHead.fields ResponseHead.maxFields .empty rest with
      | .got _ rest => ⟨[], .complete rest⟩
      | .more => .cut [] closed
      | .bad => ⟨[], .broken⟩
    | .got n rest =>
      if rest.length < n then .cut [rest] closed
      else
        match Scan.literal [13, 10] (rest.drop n) with
        | .got _ after => (decode closed bound after).cons (rest.take n)
        | .more => .cut [rest.take n] closed
        | .bad => ⟨[rest.take n], .broken⟩

end ChunkedBody

/-- The body that bytes make, the last of which has come if the connection is closed. -/
def ResponseFraming.decode (f : ResponseFraming) (closed : Bool) (bs : Bytes) : ArrivedBody :=
  match f with
  | .sized n =>
    if n ≤ bs.length then ⟨[bs.take n], .complete (bs.drop n)⟩ else .cut [bs] closed
  | .chunked => ChunkedBody.decode closed (bs.length + 1) bs
  | .untilClose => ⟨[bs], if closed then .complete [] else .pending⟩

end EndpointClient.Http
