import EndpointClient.Engine.Error
import EndpointClient.Engine.Request
import EndpointClient.Http.Origin
import EndpointClient.Http.Response
import EndpointClient.Http.ResponseBody

/-!
# EndpointClient.Engine.Link

A call of an engine over a link to the far side, on the clock. What the link does are events in
time; the call waits for them, and for the end of its time limit if it has one.

* `LinkCall.take` is what an event makes of a call.
* `LinkCall.next` is what comes first, the next event or the end of the limit, and when.
* `LinkCall.run` is a call to its end: when it ends, and how. The time limit holds until the head of
  a response is there; what comes after it is left to `LinkAnswer.body`.
* `EngineRequest.send` is the call for a request, which may have no far side to go to.

All times are milliseconds on the clock.
-/

namespace EndpointClient

/-- A limit of time: how long it is, and when it ends. -/
structure TimeLimit where
  span : Duration
  ends : Nat
  deriving DecidableEq, Repr

/-- The limit that a request sets to a call that begins. -/
def EngineRequest.limitFrom (r : EngineRequest) (began : Nat) : Option TimeLimit :=
  r.timeout.map fun d => ⟨d, began + d.ticks⟩

/-- What happens on a link: it is there, it cannot be had, bytes arrive, the far side closes, or it
breaks, as it does for a request body that fails. -/
inductive LinkEvent where
  | connected
  | refused
  | arrived (bs : Bytes)
  | closed
  | broken
  deriving DecidableEq, Repr

/-- Events with their times, the earliest first. After the last one nothing happens any more. -/
abbrev LinkEvents := List (Nat × LinkEvent)

/-- What becomes of a link: nothing that ends it, the far side closes it, or it breaks. -/
inductive LinkStop where
  | none
  | closed
  | broken
  deriving DecidableEq, Repr

/-- The head of a response on a link, the bytes that came with it, and the events after that. -/
structure LinkAnswer where
  head : Http.ResponseHead
  framing : Http.ResponseFraming
  early : Bytes
  later : LinkEvents

namespace LinkAnswer

/-- The bytes that arrive until the link is no more, and what it comes to if it does. -/
def arrivals : LinkEvents → Bytes × LinkStop
  | [] => ([], .none)
  | (_, .arrived bs) :: rest =>
    let (more, stop) := arrivals rest
    (bs ++ more, stop)
  | (_, .closed) :: _ => ([], .closed)
  | (_, .broken) :: _ => ([], .broken)
  | _ :: rest => arrivals rest

def body (a : LinkAnswer) : Http.ArrivedBody :=
  let (bs, stop) := arrivals a.later
  match stop with
  | .none => a.framing.decode false (a.early ++ bs)
  | .closed => a.framing.decode true (a.early ++ bs)
  | .broken => (a.framing.decode false (a.early ++ bs)).breakOff

/-- Whether the link is no more, closed or broken. -/
def closes (a : LinkAnswer) : Bool := (arrivals a.later).2 ≠ .none

def response (a : LinkAnswer) : Http.Response := ⟨a.head.status, a.head.headers, a.body.chunks⟩

/-- Whether the link may carry another request: the body is complete, nothing came after it, and
both sides keep the link. -/
def keepsLink (a : LinkAnswer) (method : Http.Method) : Bool :=
  a.head.keepsConnection method && a.body.finish = .complete [] && !a.closes

end LinkAnswer

abbrev LinkResult := Except EngineError LinkAnswer

/-- Where a call stands: it waits for its link, or for the head of a response of which some bytes
are there. -/
inductive LinkPhase where
  | connecting
  | receiving (arrived : Bytes)
  deriving DecidableEq, Repr

structure LinkCall where
  method : Http.Method
  limit : Option TimeLimit
  phase : LinkPhase

/-- What comes of an event: the call goes on, or ends. -/
inductive LinkTurn where
  | goesOn (c : LinkCall)
  | ended (r : LinkResult)

namespace LinkCall

def noTarget : EngineError := .transport "client error (UserAbsoluteUriRequired)"

def noLink : EngineError := .transport "client error (Connect)"

def brokenLink : EngineError := .transport "client error (SendRequest)"

def start (r : EngineRequest) (began : Nat) : LinkCall := ⟨r.method, r.limitFrom began, .connecting⟩

/-- Bytes arrive while the head of a response is waited for. -/
def receive (c : LinkCall) (bs : Bytes) (later : LinkEvents) : LinkTurn :=
  match Http.ResponseHead.scan bs with
  | .more => .goesOn { c with phase := .receiving bs }
  | .bad => .ended (.error brokenLink)
  | .got head rest =>
    match head.framing? c.method with
    | none => .ended (.error brokenLink)
    | some f => .ended (.ok ⟨head, f, rest, later⟩)

/-- What an event makes of a call. `later` are the events after it. -/
def take (c : LinkCall) (e : LinkEvent) (later : LinkEvents) : LinkTurn :=
  match c.phase, e with
  | .connecting, .connected => .goesOn { c with phase := .receiving [] }
  | .connecting, .refused => .ended (.error noLink)
  | .connecting, _ => .goesOn c
  | .receiving arrived, .arrived bs => c.receive (arrived ++ bs) later
  | .receiving _, .closed => .ended (.error brokenLink)
  | .receiving _, .broken => .ended (.error brokenLink)
  | .receiving _, _ => .goesOn c

def expire (l : TimeLimit) : Nat × LinkTurn := (l.ends, .ended (.error (.timeout l.span)))

/-- Whether an event comes too late under a limit. The call itself learns of a refusal, and looks at
it before it looks at the clock; all else reaches it through the far side, after the clock. -/
def isLate (l : TimeLimit) (time : Nat) (e : LinkEvent) : Bool :=
  if e = .refused then l.ends < time else l.ends ≤ time

/-- What comes first, the next event or the end of the limit, with its time. -/
def next (c : LinkCall) : LinkEvents → Option (Nat × LinkTurn)
  | [] => c.limit.map expire
  | (time, e) :: later =>
    match c.limit with
    | none => some (time, c.take e later)
    | some l => some (if isLate l time e then expire l else (time, c.take e later))

/-- A call to its end: the time of the end with its result, `none` if there is no end. -/
def run (c : LinkCall) (es : LinkEvents) : Option (Nat × LinkResult) :=
  match es with
  | [] => c.limit.map fun l => (l.ends, .error (.timeout l.span))
  | e :: later =>
    match c.next (e :: later) with
    | none => none
    | some (_, .goesOn c) => run c later
    | some (time, .ended r) => some (time, r)

end LinkCall

/-- The call for a request that begins at a time, with what happens on its link. Without a far side
to go to it fails at once. -/
def EngineRequest.send (r : EngineRequest) (began : Nat) (es : LinkEvents) :
    Option (Nat × LinkResult) :=
  match Http.Origin.of? r.method r.uri with
  | none => some (began, .error LinkCall.noTarget)
  | some _ => (LinkCall.start r began).run es

end EndpointClient
