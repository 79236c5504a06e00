import EndpointClient.Connector.Error
import EndpointClient.Engine.Request
import EndpointClient.Entity
import EndpointClient.Http.Response
import EndpointClient.Pipe

/-!
# EndpointClient.Connector.Exchange

A request with an entity on its way: one side writes the entity into a pipe, the other side is the
call of the engine, a task of its own, which reads its request body from that pipe. The two sides
take turns in any order; nothing here waits.

* `Exchange.write` is the next step of the writing side, `none` while it has to wait.
* `CallEvent` is what the task of the call does, `Exchange.pull` how the engine reads.
* `Exchange.abandon` is the caller giving up. `Exchange.step` is all of these as events.

An error of the engine explains a pipe that broke, so it is the outcome then; a failure of the
entity itself is the outcome whatever the engine does, and the engine is left to run on alone.
-/

namespace EndpointClient

open Http (Response)

abbrev SendOutcome := Except ConnectorError Response

/-- How a call of an engine ended: with an answer, a failure, or a breakdown. -/
inductive CallEnd where
  | returned (result : Except EngineError Response)
  | panicked (text : String)

/-- The task of a call: it is still to end, has ended, or was dropped before its end. -/
inductive CallState where
  | running
  | ended (how : CallEnd)
  | dropped

namespace CallState

def isRunning : CallState → Bool
  | .running => true
  | _ => false

end CallState

def CallEnd.outcome : CallEnd → SendOutcome
  | .returned (.ok r) => .ok r.readdressed
  | .returned (.error e) => .error (.ofEngine e)
  | .panicked t => .error (.ofPanic t)

/-- The outcome of a request whose pipe broke: the engine's own error, or else the break. -/
def CallEnd.outcomeOfBreak (fault : IoError) : CallEnd → SendOutcome
  | .returned (.error e) => .error (.ofEngine e)
  | _ => .error (.streamingFailure fault)

/-- How far the writing side is: it writes, waits for the call (after a broken pipe with the
failure), is done with an outcome, or was given up. -/
inductive ExchangeStage where
  | writing
  | joining (fault : Option IoError)
  | done (outcome : SendOutcome)
  | abandoned

inductive BodyEnd where
  | clean
  | broken (e : IoError)
  deriving DecidableEq, Repr

/-- Who has a hold on the task of a call: the exchange, which waits for its end or is going to;
nobody, since it was left to run on alone; or nobody, since it was told to stop. -/
inductive CallHold where
  | held
  | detached
  | aborted
  deriving DecidableEq, Repr

structure Exchange where
  /-- What the task of the call is to ask the engine, which it does when it first runs. -/
  request : EngineRequest
  pipe : Pipe
  delivery : Delivery
  stage : ExchangeStage
  call : CallState
  hold : CallHold
  /-- What the engine was asked, the earliest first. -/
  asked : List EngineRequest
  /-- Whether the engine gave its request body to something that may outlive the call. -/
  handedOn : Bool
  /-- The chunks that the engine has read, the latest first. -/
  taken : List Bytes
  bodyEnd : Option BodyEnd

/-- What happens in the task of a call: the engine is asked, it reads from its request body, gives
the body to something that may outlive the call, or lets go of it, the call ends, or the task goes
since it was told to stop. -/
inductive CallEvent where
  | ask
  | pull
  | handOn
  | dropBody
  | finish (how : CallEnd)
  | reap

/-- What happens to an exchange: a step of the writing side, something in the task of the call, or
the caller gives up. -/
inductive ExchangeEvent where
  | write
  | call (e : CallEvent)
  | abandon

namespace Exchange

def start (capacity : Nat) (q : EngineRequest) (e : Entity) : Exchange :=
  ⟨q, .new capacity, .start e, .writing, .running, .held, [], false, [], none⟩

/-- What a pipe answers to a call of the writing side, `none` while the call has to wait. -/
def pipeReply (p : Pipe) : SinkCall → Option (Pipe × SinkReply)
  | .write bs =>
    match p.write bs with
    | (p', .took n) => some (p', .took n)
    | (_, .pending) => none
    | (p', .failed e) => some (p', .failed e)
  | .flush => some (p, .done)
  | .shutdown => some (p.shutdown, .done)

/-- The writing side has written all it will write. It lets go of the pipe, and goes on as the
delivery ended. -/
def settle (x : Exchange) : Except IoError Unit → Exchange
  | .ok () => { x with pipe := x.pipe.dropWriter, stage := .joining none }
  | .error e =>
    if e.kind = .brokenPipe then { x with pipe := x.pipe.dropWriter, stage := .joining (some e) }
    else
      { x with pipe := x.pipe.dropWriter, stage := .done (.error (.streamingFailure e)),
               hold := .detached }

/-- The end of the call, where the exchange waits for it. -/
def outcomeOf (fault : Option IoError) (how : CallEnd) : SendOutcome :=
  match fault with
  | none => how.outcome
  | some e => how.outcomeOfBreak e

/-- The next step of the writing side: a call on the pipe, the end of the delivery, or the end of
the wait for the call. -/
def write (x : Exchange) : Option Exchange :=
  match x.stage with
  | .writing =>
    match x.delivery.result? with
    | some r => some (x.settle r)
    | none =>
      match x.delivery.call? with
      | none => none
      | some c =>
        (pipeReply x.pipe c).map fun (p, r) =>
          { x with pipe := p, delivery := x.delivery.reply r }
  | .joining fault =>
    match x.call with
    | .ended how => some { x with stage := .done (outcomeOf fault how) }
    | _ => none
  | _ => none

/-- Whether the task of the call is still to ask the engine. -/
def awaitsAsk (x : Exchange) : Bool := x.call.isRunning && x.asked.isEmpty && x.hold != .aborted

def ask (x : Exchange) : Exchange :=
  if x.awaitsAsk then { x with asked := x.asked ++ [x.request] } else x

def bodyHeld (x : Exchange) : Bool := !x.asked.isEmpty && !x.pipe.readerGone

/-- The engine asks for the next chunk of its request body. After the end there is nothing more. -/
def pull (x : Exchange) : Exchange × Pull :=
  if !x.bodyHeld then (x, .pending)
  else
    match x.bodyEnd with
    | some _ => (x, .ended)
    | none =>
      match x.pipe.pull with
      | (p, .chunk bs) => ({ x with pipe := p, taken := bs :: x.taken }, .chunk bs)
      | (p, .ended) => ({ x with pipe := p, bodyEnd := some .clean }, .ended)
      | (p, .failed e) => ({ x with pipe := p, bodyEnd := some (.broken e) }, .failed e)
      | (_, .pending) => (x, .pending)

def dropBody (x : Exchange) : Exchange := { x with pipe := x.pipe.dropReader }

/-- The task of the call is over, and its request body with it unless the body was handed on. -/
def endCall (x : Exchange) (s : CallState) : Exchange :=
  { x with pipe := { x.pipe with readerGone := x.pipe.readerGone || !x.handedOn }, call := s }

def finish (x : Exchange) (how : CallEnd) : Exchange :=
  if x.call.isRunning && !x.asked.isEmpty then x.endCall (.ended how) else x

/-- A task that was told to stop goes before the call has ended. -/
def reap (x : Exchange) : Exchange :=
  if x.call.isRunning && x.hold = .aborted then x.endCall .dropped else x

/-- The caller gives the exchange up: the writing side is gone, and the task of the call is told to
stop. -/
def abandon (x : Exchange) : Exchange :=
  match x.stage with
  | .done _ => x
  | .abandoned => x
  | _ => { x with pipe := x.pipe.dropWriter, stage := .abandoned, hold := .aborted }

def callStep (x : Exchange) : CallEvent → Exchange
  | .ask => x.ask
  | .pull => x.pull.1
  | .handOn => if x.call.isRunning && x.bodyHeld then { x with handedOn := true } else x
  | .dropBody => if x.bodyHeld then x.dropBody else x
  | .finish how => x.finish how
  | .reap => x.reap

def step (x : Exchange) : ExchangeEvent → Exchange
  | .write => x.write.getD x
  | .call e => x.callStep e
  | .abandon => x.abandon

def run (x : Exchange) (es : List ExchangeEvent) : Exchange := es.foldl step x

def received (x : Exchange) : Bytes := x.taken.reverse.flatten

def outcome? (x : Exchange) : Option SendOutcome :=
  match x.stage with
  | .done o => some o
  | _ => none

end Exchange

end EndpointClient
