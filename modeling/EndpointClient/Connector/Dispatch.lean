import EndpointClient.Connector.Exchange
import EndpointClient.Observe.Journal
import EndpointClient.Request

/-!
# EndpointClient.Connector.Dispatch

One request from its beginning to its end. Without an entity the engine is called in line, with an
empty body; with one the request is an `Exchange`.

* `Dispatch.advance` is the next step on the side of the caller, `none` while it has to wait.
* `Dispatch.callStep` is what happens in the call of the engine, at its own pace.
* `Dispatch.abandon` drops a request that has not ended. `Dispatch.step` is all of these as events.

A request that ended with an outcome has happened: it is logged and counted. One that was dropped,
or broke down, is not.
-/

namespace EndpointClient

/-- The work on a request: not begun, a call in line with what the engine was asked, or an
exchange. -/
inductive DispatchWork where
  | unbegun
  | inline (asked : EngineRequest)
  | streamed (x : Exchange)

inductive DispatchEnd where
  | completed (outcome : SendOutcome)
  | panicked (text : String)
  | dropped

/-- One request. Its times are milliseconds. -/
structure Dispatch where
  mode : SendMode
  request : ClientRequest
  capacity : Nat
  began : Nat
  work : DispatchWork
  ended : Option DispatchEnd

/-- What happens to a request: a step on the side of the caller, something in the call of the
engine, or the caller drops the request. -/
inductive DispatchEvent where
  | advance
  | call (e : CallEvent)
  | abandon

namespace Dispatch

def start (mode : SendMode) (capacity : Nat) (r : ClientRequest) : Dispatch :=
  ⟨mode, r, capacity, 0, .unbegun, none⟩

def complete (d : Dispatch) (now : Nat) (o : SendOutcome) : Dispatch × Journal :=
  ({ d with ended := some (.completed o) },
    [.sent ⟨d.mode, d.request.method, d.request.uri, o.map (·.status), .ofMillis (now - d.began)⟩])

/-- Goes on with an exchange, to the end of the request if the exchange is at an outcome. -/
def withExchange (d : Dispatch) (now : Nat) (x : Exchange) : Dispatch × Journal :=
  let d := { d with work := .streamed x }
  match x.outcome? with
  | some o => d.complete now o
  | none => (d, [])

/-- Begins the work. Without an entity that is to ask the engine. -/
def begin (d : Dispatch) (now : Nat) : Dispatch :=
  let q := d.request.engineRequest
  let work := match d.request.entity with
    | none => .inline q
    | some e => .streamed (.start d.capacity q e)
  { d with began := now, work := work }

def advance (d : Dispatch) (now : Nat) : Option (Dispatch × Journal) :=
  if d.ended.isSome then none
  else
    match d.work with
    | .unbegun => some (d.begin now, [])
    | .inline _ => none
    | .streamed x => x.write.map (d.withExchange now)

/-- The call of the engine ends. A call in line ends the request with it, also by a breakdown. -/
def finishCall (d : Dispatch) (now : Nat) (how : CallEnd) : Dispatch × Journal :=
  match d.work with
  | .unbegun => (d, [])
  | .inline _ =>
    if d.ended.isSome then (d, [])
    else
      match how with
      | .returned _ => d.complete now how.outcome
      | .panicked t => ({ d with ended := some (.panicked t) }, [])
  | .streamed x => ({ d with work := .streamed (x.finish how) }, [])

/-- The engine reads from its request body. In line the body is empty. -/
def pull (d : Dispatch) : Dispatch × Pull :=
  match d.work with
  | .streamed x =>
    let (x, p) := x.pull
    ({ d with work := .streamed x }, p)
  | _ => (d, .ended)

/-- What happens in the call of the engine. A call in line has nothing to do but to end. -/
def callStep (d : Dispatch) (now : Nat) (e : CallEvent) : Dispatch × Journal :=
  match e, d.work with
  | .finish how, _ => d.finishCall now how
  | e, .streamed x => ({ d with work := .streamed (x.callStep e) }, [])
  | _, _ => (d, [])

def ask (d : Dispatch) : Dispatch := (d.callStep 0 .ask).1

def dropBody (d : Dispatch) : Dispatch := (d.callStep 0 .dropBody).1

def abandon (d : Dispatch) : Dispatch :=
  if d.ended.isSome then d
  else
    match d.work with
    | .streamed x => { d with work := .streamed x.abandon, ended := some .dropped }
    | _ => { d with ended := some .dropped }

def step (d : Dispatch) (now : Nat) : DispatchEvent → Dispatch × Journal
  | .advance => (d.advance now).getD (d, [])
  | .call e => d.callStep now e
  | .abandon => (d.abandon, [])

/-- A run through events with their times, and what has happened in it, the latest first. -/
def run (d : Dispatch) : List (Nat × DispatchEvent) → Dispatch × Journal
  | [] => (d, [])
  | (now, e) :: es =>
    let (d, j) := d.step now e
    let (d, more) := d.run es
    (d, more ++ j)

/-- What the engine was asked, the earliest first. -/
def asked (d : Dispatch) : List EngineRequest :=
  match d.work with
  | .unbegun => []
  | .inline q => [q]
  | .streamed x => x.asked

/-- The bytes that the engine has read of its request body. -/
def received (d : Dispatch) : Bytes :=
  match d.work with
  | .streamed x => x.received
  | _ => []

/-- Whether the engine runs, or is still to run, on behalf of the request in a task of its own. -/
def callLives (d : Dispatch) : Bool :=
  match d.work with
  | .streamed x => x.call.isRunning && x.hold != .aborted
  | _ => false

end Dispatch

end EndpointClient
