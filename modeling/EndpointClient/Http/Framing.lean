import EndpointClient.Http.Header
import EndpointClient.Http.Method
import EndpointClient.Http.Origin
import EndpointClient.Text.Blank
import EndpointClient.Text.Decimal
import EndpointClient.Text.Split
import EndpointClient.Word

/-!
# EndpointClient.Http.Framing

What header fields say of a message body: where it ends, and whether the connection is kept.

* `HeaderMap.contentLength?` is the one length that all length fields agree on.
* `HeaderMap.endsChunked` says whether the last transfer coding is `chunked`.
* `RequestFraming.of` is how a request body is sent, with the fields that say so.
-/

namespace EndpointClient.Http

namespace HeaderName

def host : HeaderName := ⟨"host", by decide, by decide⟩

def contentLength : HeaderName := ⟨"content-length", by decide, by decide⟩

def transferEncoding : HeaderName := ⟨"transfer-encoding", by decide, by decide⟩

def connection : HeaderName := ⟨"connection", by decide, by decide⟩

end HeaderName

/-- A value of printable ASCII, which every text of such characters is. Others leave it empty. -/
def HeaderValue.ofChars (cs : List Char) : HeaderValue :=
  (ofBytes? (cs.map fun c => c.toNat.toUInt8)).getD ⟨[], rfl⟩

namespace HeaderValue

/-- The items of a list of words, in lower case, without the blanks around them. A value that does
not show has none. -/
def items (v : HeaderValue) : List (List Char) :=
  match v.visibleText? with
  | none => []
  | some s => (Text.splitAt ',' s.toList).map fun p => (Text.trim p).map Char.toLower

/-- The lengths that a value gives, `none` if it is no list of lengths. -/
def lengths? (v : HeaderValue) : Option (List Nat) :=
  (v.visibleText?).bind fun s =>
    (Text.splitAt ',' s.toList).mapM fun p => (Text.readNat? (Text.trim p)).filter Word.holds

/-- The coding in chunks behind the codings that are there, on the line of the last one. -/
def withChunked (vs : List HeaderValue) : List HeaderValue :=
  match vs.getLast? with
  | none => [.ofChars "chunked".toList]
  | some last => vs.dropLast ++ [(ofBytes? (last.bytes ++ Utf8.encode ", chunked")).getD last]

theorem withChunked_ne_nil (vs : List HeaderValue) : withChunked vs ≠ [] := by
  unfold withChunked
  split <;> simp

end HeaderValue

namespace HeaderMap

/-- The length that all length fields give, `none` if there is none or they do not agree. -/
def contentLength? (h : HeaderMap) : Option Nat :=
  match (h.valuesOf .contentLength).mapM HeaderValue.lengths? with
  | none => none
  | some ns =>
    match ns.flatten with
    | [] => none
    | n :: rest => if rest.all (· == n) then some n else none

/-- Whether the last coding of the body is the one in chunks. -/
def endsChunked (h : HeaderMap) : Bool :=
  ((h.valuesOf .transferEncoding).getLast?.bind fun v => v.items.getLast?) = some "chunked".toList

def appendChunked (h : HeaderMap) : HeaderMap :=
  h.update .transferEncoding HeaderValue.withChunked HeaderValue.withChunked_ne_nil

/-- Whether the connection is kept after a message, which in newer versions is so unless a field
says otherwise, and in older ones only if one does. A later field has the last word. -/
def keepsConnection (h : HeaderMap) (newer : Bool) : Bool :=
  (h.valuesOf .connection).foldl
    (fun keeps v =>
      if keeps then !v.items.contains "close".toList else v.items.contains "keep-alive".toList)
    newer

end HeaderMap

/-- How a request body is sent: so many bytes, or in chunks. No body is no bytes. -/
inductive RequestFraming where
  | sized (n : Nat)
  | chunked
  deriving DecidableEq, Repr

/-- What is known of the size of a request body beforehand. -/
inductive BodySize where
  | nothing
  | known (n : Nat)
  | unknown
  deriving DecidableEq, Repr

/-- What is known of a body of so many bytes, or of one that is still to come. -/
def BodySize.ofExact : Option Nat → BodySize
  | some 0 => .nothing
  | some n => .known n
  | none => .unknown

/-- A method whose requests have no body unless their fields say so. -/
def Method.isBodiless (m : Method) : Bool := m = .get || m = .head || m = .connect

namespace RequestFraming

/-- Fields with the length of the body in the place of those that gave none. -/
def withLength (h : HeaderMap) (n : Nat) : RequestFraming × HeaderMap :=
  (.sized n, h.set .contentLength (.ofChars (Text.natText n)))

/-- How a body is sent to a server that knows no chunks. -/
def ofOlder (h : HeaderMap) (size : BodySize) : RequestFraming × HeaderMap :=
  let h := h.erase .transferEncoding
  match h.contentLength?, size with
  | some n, _ => (.sized n, h)
  | none, .known n => withLength h n
  | none, _ => (.sized 0, h)

/-- How a body is sent, with the fields that say so. Fields of the caller are respected: a coding
comes before a length, and the last coding is always the one in chunks. -/
def of (method : Method) (h : HeaderMap) (size : BodySize) (older : Bool) :
    RequestFraming × HeaderMap :=
  match size with
  | .nothing => (.sized 0, h.erase .transferEncoding)
  | _ =>
    if older then ofOlder h size
    else if h.contains .transferEncoding then
      let h' := if h.endsChunked then h else h.appendChunked
      (.chunked, if h.contentLength?.isSome then h'.erase .contentLength else h')
    else
      match h.contentLength?, size with
      | some n, _ => (.sized n, h)
      | none, .known n => withLength h n
      | none, _ =>
        if method.isBodiless then (.sized 0, h) else (.chunked, h.appendChunked)

/-- What a server gets of a body that is sent so, `none` if it ends too early. -/
def payload? (f : RequestFraming) (body : Bytes) : Option Bytes :=
  match f with
  | .chunked => some body
  | .sized n => if n ≤ body.length then some (body.take n) else none

end RequestFraming

end EndpointClient.Http
