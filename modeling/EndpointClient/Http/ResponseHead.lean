import EndpointClient.Http.Framing
import EndpointClient.Http.Status

/-!
# EndpointClient.Http.ResponseHead

The head of a response as it arrives: a status line, fields, and an empty line.

* `ResponseHead.scan` reads one from the bytes that are there. It refuses them as soon as they
  cannot become one.
* `ResponseHead.framing?` says where the body ends.
-/

namespace EndpointClient.Http

/-- What comes of reading bytes some of which may still be on their way. -/
inductive Scan (α : Type) where
  | got (value : α) (rest : Bytes)
  | more
  | bad
  deriving Repr

namespace Scan

def andThen {α β : Type} (s : Scan α) (f : α → Bytes → Scan β) : Scan β :=
  match s with
  | .got a rest => f a rest
  | .more => .more
  | .bad => .bad

def literal : List UInt8 → Bytes → Scan Unit
  | [], rest => .got () rest
  | _ :: _, [] => .more
  | x :: xs, b :: rest => if b = x then literal xs rest else .bad

/-- Reads the end of a line, with the carriage return before it or without. -/
def lineEnd : Bytes → Scan Unit
  | [] => .more
  | 10 :: rest => .got () rest
  | 13 :: rest => literal [10] rest
  | _ => .bad

/-- Reads up to the end of a line, where each byte passes `ok`. -/
def lineOf (ok : UInt8 → Bool) : Bytes → Scan Bytes
  | [] => .more
  | b :: rest =>
    if b = 10 || b = 13 then (lineEnd (b :: rest)).andThen fun _ r => .got [] r
    else if ok b then (lineOf ok rest).andThen fun bs r => .got (b :: bs) r
    else .bad

/-- Reads so many decimal digits, with the number they make so far. -/
def digits : Nat → Nat → Bytes → Scan Nat
  | 0, n, rest => .got n rest
  | _ + 1, _, [] => .more
  | k + 1, n, b :: rest =>
    if 48 ≤ b && b ≤ 57 then digits k (n * 10 + (b.toNat - 48)) rest else .bad

end Scan

structure ResponseHead where
  status : StatusCode
  newer : Bool
  headers : HeaderMap

namespace ResponseHead

def emptyLines : Bytes → Scan Unit
  | 10 :: rest => emptyLines rest
  | 13 :: 10 :: rest => emptyLines rest
  | [13] => .more
  | bs => .got () bs

/-- Reads the version: whether it is the newer of the two. -/
def version (bs : Bytes) : Scan Bool :=
  (Scan.literal (Utf8.encode "HTTP/1.") bs).andThen fun _ rest =>
    match rest with
    | [] => .more
    | 48 :: rest => .got false rest
    | 49 :: rest => .got true rest
    | _ => .bad

/-- Reads what stands after the status: nothing, or a blank and a phrase. -/
def phrase : Bytes → Scan Unit
  | [] => .more
  | 32 :: rest => (Scan.lineOf isValueByte rest).andThen fun _ r => .got () r
  | bs => Scan.lineEnd bs

/-- Reads the first line: the version and the status. -/
def statusLine (bs : Bytes) : Scan (Bool × StatusCode) :=
  (emptyLines bs).andThen fun _ rest =>
    (version rest).andThen fun newer rest =>
      (Scan.literal [32] rest).andThen fun _ rest =>
        (Scan.digits 3 0 rest).andThen fun code rest =>
          (phrase rest).andThen fun _ rest =>
            match StatusCode.ofNat? code with
            | some s => .got (newer, s) rest
            | none => .bad

def fieldName : Bytes → Scan (List Char)
  | [] => .more
  | b :: rest =>
    if b = 58 then .got [] rest
    else if isTokenChar (Char.ofNat b.toNat) then
      (fieldName rest).andThen fun cs r => .got (Char.ofNat b.toNat :: cs) r
    else .bad

def isGap (b : UInt8) : Bool := b = 32 || b = 9

def trimValue (bs : Bytes) : Bytes :=
  ((bs.dropWhile isGap).reverse.dropWhile isGap).reverse

def field (bs : Bytes) : Scan (HeaderName × HeaderValue) :=
  (fieldName bs).andThen fun name rest =>
    (Scan.lineOf isValueByte rest).andThen fun value rest =>
      match HeaderName.ofChars? name, HeaderValue.ofBytes? (trimValue value) with
      | some n, some v => .got (n, v) rest
      | _, _ => .bad

def maxFields : Nat := 100

/-- Reads fields up to an empty line, after those that were read. -/
def fields : (room : Nat) → HeaderMap → Bytes → Scan HeaderMap
  | room, h, bs =>
    match bs with
    | [] => .more
    | b :: _ =>
      if b = 10 || b = 13 then (Scan.lineEnd bs).andThen fun _ rest => .got h rest
      else
        match room with
        | 0 => .bad
        | room + 1 => (field bs).andThen fun f rest => fields room (h.append f.1 f.2) rest

def scanOne (bs : Bytes) : Scan ResponseHead :=
  (statusLine bs).andThen fun line rest =>
    (fields maxFields .empty rest).andThen fun h rest => .got ⟨line.2, line.1, h⟩ rest

/-- Whether another head comes after this one. A change of the protocol is final. -/
def isInterim (r : ResponseHead) : Bool := r.status.code < 200 && r.status.code ≠ 101

/-- Reads heads up to one that is not interim, of at most so many. -/
def scanUpTo : Nat → Bytes → Scan ResponseHead
  | 0, _ => .more
  | n + 1, bs =>
    (scanOne bs).andThen fun r rest => if r.isInterim then scanUpTo n rest else .got r rest

/-- Reads the head of the response proper. Each head takes a byte at least. -/
def scan (bs : Bytes) : Scan ResponseHead := scanUpTo (bs.length + 1) bs

end ResponseHead

/-- Where a response body ends: after so many bytes, with its last chunk, or with the connection. -/
inductive ResponseFraming where
  | sized (n : Nat)
  | chunked
  | untilClose
  deriving DecidableEq, Repr

namespace ResponseHead

/-- Whether the connection is something else after this head: another protocol, or a tunnel. -/
def leavesProtocol (r : ResponseHead) (method : Method) : Bool :=
  r.status.code = 101 ||
    (method = .connect && 200 ≤ r.status.code && r.status.code < 300)

/-- Where the body ends, `none` if the fields make no sense. -/
def framing? (r : ResponseHead) (method : Method) : Option ResponseFraming :=
  if r.leavesProtocol method || r.status.code = 204 || r.status.code = 304 || method = .head then
    some (.sized 0)
  else if r.headers.contains .transferEncoding then
    if !r.newer then none
    else if r.headers.endsChunked then some .chunked
    else some .untilClose
  else if r.headers.contains .contentLength then
    (r.headers.contentLength?.filter (· + 2 < Word.bound)).map .sized
  else some .untilClose

/-- Whether the connection may carry another request after this response. -/
def keepsConnection (r : ResponseHead) (method : Method) : Bool :=
  r.headers.keepsConnection r.newer && !r.leavesProtocol method

end ResponseHead

end EndpointClient.Http
