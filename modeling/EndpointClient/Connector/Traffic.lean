import EndpointClient.Connector.Basic
import EndpointClient.Connector.Ticket

/-!
# EndpointClient.Connector.Traffic

The requests that are sent through one connector, all on their way at the same time.

* A `Sending` is a request that is about to be sent, by someone who waits for the outcome or in the
  background; a `Sent` is one on its way. `Connector.send` makes the one of the other.
* `Sent.step` is what happens to one request, `Sent.receipt?` what whoever sent it gets.
* `Traffic.step` is what happens on a connector: one more request is sent, or something happens to
  one of those that were sent.
-/

namespace EndpointClient

/-- What is sent through a connector: a request that someone waits for, or one in the background with
a callback that may break down. -/
inductive Sending where
  | awaited (r : ClientRequest)
  | background (r : ClientRequest) (breaks : SendOutcome → Option String)

def Sending.request : Sending → ClientRequest
  | .awaited r => r
  | .background r _ => r

inductive Sent where
  | awaited (d : Dispatch)
  | background (t : Ticket)

/-- What happens to a request on its way: a step of its own, something in the call of the engine, or
whoever waits for it gives it up; one in the background is cancelled, loses its handle, or its task
goes. -/
inductive SentEvent where
  | advance
  | call (e : CallEvent)
  | giveUp
  | cancel
  | dropHandle
  | tearDown

namespace SentEvent

/-- What an event is for a request that someone waits for, if anything. -/
def awaited? : SentEvent → Option DispatchEvent
  | .advance => some .advance
  | .call e => some (.call e)
  | .giveUp => some .abandon
  | _ => none

/-- What an event is for a request in the background, if anything. -/
def background? : SentEvent → Option TicketEvent
  | .advance => some .advance
  | .call e => some (.call e)
  | .giveUp => none
  | .cancel => some .cancel
  | .dropHandle => some .dropHandle
  | .tearDown => some .tearDown

end SentEvent

/-- What whoever sent a request gets of it: its end, or what the callback has heard together with
the end that the handle tells of. -/
inductive Receipt where
  | awaited (e : DispatchEnd)
  | background (heard : List SendOutcome) (e : TicketEnd)

def DispatchEnd.isDropped : DispatchEnd → Bool
  | .dropped => true
  | _ => false

namespace Sent

def dispatch : Sent → Dispatch
  | .awaited d => d
  | .background t => t.dispatch

def isCancelled : Sent → Bool
  | .awaited d => d.ended.any DispatchEnd.isDropped
  | .background t => t.cancelled

def receipt? : Sent → Option Receipt
  | .awaited d => d.ended.map .awaited
  | .background t => t.ended.map (.background t.heard)

def step (s : Sent) (now : Nat) (ev : SentEvent) : Sent × Journal :=
  match s with
  | .awaited d =>
    match ev.awaited? with
    | some ev => (d.step now ev).map .awaited id
    | none => (s, [])
  | .background t =>
    match ev.background? with
    | some ev => (t.step now ev).map .background id
    | none => (s, [])

def run (s : Sent) (es : List (Nat × SentEvent)) : Sent :=
  es.foldl (fun s u => (s.step u.1 u.2).1) s

end Sent

namespace Connector

/-- A request that is about to be sent by someone who waits for it. -/
def dispatch (c : Connector) (r : ClientRequest) : Dispatch := .start .sync c.pipeCapacity r

/-- A request that is about to be sent in the background. -/
def ticket (c : Connector) (r : ClientRequest) (breaks : SendOutcome → Option String) : Ticket :=
  .start .async c.pipeCapacity r breaks

def send (c : Connector) : Sending → Sent
  | .awaited r => .awaited (c.dispatch r)
  | .background r breaks => .background (c.ticket r breaks)

end Connector

/-- The requests of a connector in the order in which they were sent, and what has happened, the
latest first. -/
structure Traffic where
  connector : Connector
  sent : List Sent
  journal : Journal

/-- What happens on a connector: one more request is sent, or something happens to the one with an
index. -/
inductive TrafficEvent where
  | send (s : Sending)
  | happens (index : Nat) (ev : SentEvent)

namespace Traffic

def start (c : Connector) : Traffic := ⟨c, [], []⟩

def step (w : Traffic) (now : Nat) : TrafficEvent → Traffic
  | .send s => { w with sent := w.sent ++ [w.connector.send s] }
  | .happens i ev =>
    match w.sent[i]? with
    | none => w
    | some s =>
      let (s, j) := s.step now ev
      { w with sent := w.sent.set i s, journal := j ++ w.journal }

def run (w : Traffic) (es : List (Nat × TrafficEvent)) : Traffic :=
  es.foldl (fun w u => w.step u.1 u.2) w

end Traffic

end EndpointClient
