import EndpointClient.Connector.Ticket

/-!
# EndpointClient.Proofs.Connector.Schedule

Requests whose engine reads its request body to the end and then answers.

* `EngineAnswer` is what such an engine makes of a request and the bytes of its body, and
  `Exchange.engineMove` what it does next.
* `Turn` is whose turn it is. `Exchange.call?` is what a turn brings about in the call.
* `Dispatch.play` and `Ticket.play` are a request under a schedule of turns, each with its time. A
  turn of a side that has to wait changes nothing.
* `Turn.Round` are turns in which neither side is passed over.
-/

namespace EndpointClient

open Http (Response)

/-- What an engine answers to a request with the bytes of its body. -/
abbrev EngineAnswer := EngineRequest → Bytes → Except EngineError Response

/-- Whose turn it is: the side of the caller goes on, or the engine does; the engine gives its body
to something that may outlive the call, or lets go of a body that it has read; whoever sent the
request lets go of its handle. -/
inductive Turn where
  | caller
  | engine
  | handOn
  | dropBody
  | dropHandle

/-- Turns in which neither side is passed over. -/
def Turn.Round (ts : List (Nat × Turn)) : Prop :=
  .caller ∈ ts.map (·.2) ∧ .engine ∈ ts.map (·.2)

variable (answer : EngineAnswer)

namespace Exchange

/-- What the engine does next: it is asked, reads on to the end of its body, and answers. -/
def engineMove (x : Exchange) : Option CallEvent :=
  if x.call.isRunning then
    match x.asked, x.bodyEnd with
    | [], _ => some .ask
    | _, none => some .pull
    | q :: _, some _ => some (.finish (.returned (answer q x.received)))
  else none

def call? (x : Exchange) : Turn → Option CallEvent
  | .engine => x.engineMove answer
  | .handOn => some .handOn
  | .dropBody => if x.bodyEnd.isSome then some .dropBody else none
  | _ => none

end Exchange

namespace Dispatch

/-- What a turn brings about in the call. The body of a call in line is empty. -/
def call? (d : Dispatch) (u : Turn) : Option CallEvent :=
  match d.work, u with
  | .streamed x, u => x.call? answer u
  | .inline q, .engine => some (.finish (.returned (answer q [])))
  | _, _ => none

def event? (d : Dispatch) : Turn → Option DispatchEvent
  | .caller => some .advance
  | u => (d.call? answer u).map .call

def turn (d : Dispatch) (now : Nat) (u : Turn) : Dispatch :=
  (d.event? answer u).elim d fun ev => (d.step now ev).1

def play (d : Dispatch) (ts : List (Nat × Turn)) : Dispatch :=
  ts.foldl (fun d u => d.turn answer u.1 u.2) d

end Dispatch

namespace Ticket

def event? (t : Ticket) : Turn → Option TicketEvent
  | .caller => some .advance
  | .dropHandle => some .dropHandle
  | u => (t.dispatch.call? answer u).map .call

def turn (t : Ticket) (now : Nat) (u : Turn) : Ticket :=
  (t.event? answer u).elim t fun ev => (t.step now ev).1

/-- A request in the background under a schedule, never cancelled. -/
def play (t : Ticket) (ts : List (Nat × Turn)) : Ticket :=
  ts.foldl (fun t u => t.turn answer u.1 u.2) t

end Ticket

end EndpointClient
