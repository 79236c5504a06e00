import EndpointClient.Connector.Dispatch

/-!
# EndpointClient.Connector.Ticket

A request that is carried out in the background: whoever sent it holds a handle, and a callback
hears what comes of it.

* `CallbackGuard` owns the callback. It hands over the outcome of a request that was completed, and
  a guard that goes without having done so tells the callback of an interruption.
* `Ticket.advance` is the next step of the request, `Ticket.cancel` asks it to end.
  `Ticket.step` is all that happens as events.
* `TicketEnd.status` is what the handle gives.
-/

namespace EndpointClient

/-- What owns the callback of a request. -/
structure CallbackGuard where
  /-- Whether the callback is still to be called. -/
  armed : Bool
  /-- What the callback has heard. -/
  heard : List SendOutcome
  /-- The message that the callback breaks down with over an outcome, if it does. -/
  breaks : SendOutcome → Option String

namespace CallbackGuard

/-- A callback that never breaks down. -/
def neverBreaks : SendOutcome → Option String := fun _ => none

def new (breaks : SendOutcome → Option String) : CallbackGuard := ⟨true, [], breaks⟩

/-- Takes the callback and calls it. Without a callback there is nothing to do. -/
def tell (g : CallbackGuard) (o : SendOutcome) : CallbackGuard :=
  if g.armed then { g with armed := false, heard := g.heard ++ [o] } else g

/-- The message that a call of the callback would break down with. -/
def breakdown? (g : CallbackGuard) (o : SendOutcome) : Option String :=
  if g.armed then g.breaks o else none

/-- What a callback hears whose guard goes first. -/
def interruption : SendOutcome := .error .interrupted

def drop (g : CallbackGuard) : CallbackGuard := g.tell interruption

def complete (g : CallbackGuard) (o : SendOutcome) : CallbackGuard := (g.tell o).drop

end CallbackGuard

inductive TicketEnd where
  | completed (status : Except ConnectorError Http.StatusCode)
  | cancelled
  | panicked (text : String)

namespace TicketEnd

def status : TicketEnd → Except ConnectorError Http.StatusCode
  | .completed s => s
  | .cancelled => .error .interrupted
  | .panicked t => .error (.ofPanic t)

/-- The end of a request whose callback may have broken down on the way. -/
def orBreakdown (e : TicketEnd) : Option String → TicketEnd
  | none => e
  | some t => .panicked t

end TicketEnd

/-- A request in the background. -/
structure Ticket where
  dispatch : Dispatch
  guard : CallbackGuard
  /-- Whether the handle is still there. -/
  handle : Bool
  /-- Whether it was asked to end. -/
  cancelled : Bool
  ended : Option TicketEnd

/-- What happens to a request in the background: a step of its own, something in the call of the
engine, what is done with the handle, or its task goes since it was asked to end. -/
inductive TicketEvent where
  | advance
  | call (e : CallEvent)
  | cancel
  | dropHandle
  | tearDown

namespace Ticket

/-- A request that is about to be sent, with a callback that may break down. -/
def start (mode : SendMode) (capacity : Nat) (r : ClientRequest)
    (breaks : SendOutcome → Option String) : Ticket :=
  ⟨.start mode capacity r, .new breaks, true, false, none⟩

def heard (t : Ticket) : List SendOutcome := t.guard.heard

/-- The task of the request is over: the callback is told of the outcome if there is one, and the
guard goes. A callback that breaks down while the task breaks down takes the whole program with it,
and nobody is left to see the end. -/
def settle (t : Ticket) : DispatchEnd → Ticket
  | .completed o =>
    { t with guard := t.guard.complete o,
             ended := some ((TicketEnd.completed (o.map (·.status))).orBreakdown
               (t.guard.breakdown? o)) }
  | .panicked text => { t with guard := t.guard.drop, ended := some (.panicked text) }
  | .dropped =>
    { t with guard := t.guard.drop,
             ended := some (TicketEnd.cancelled.orBreakdown
               (t.guard.breakdown? CallbackGuard.interruption)) }

def withDispatch (t : Ticket) (d : Dispatch) : Ticket :=
  let t := { t with dispatch := d }
  if t.ended.isSome then t
  else
    match d.ended with
    | none => t
    | some e => t.settle e

/-- The next step of the work on the request, `none` while it has to wait. -/
def proceed (t : Ticket) (now : Nat) : Option (Ticket × Journal) :=
  if t.ended.isSome then none
  else (t.dispatch.advance now).map fun (d, j) => (t.withDispatch d, j)

/-- The task of a request that was asked to end goes, wherever it is. -/
def tearDown (t : Ticket) : Ticket :=
  if t.cancelled && t.ended.isNone then t.withDispatch t.dispatch.abandon else t

/-- The next step of the request, `none` while it has to wait. -/
def advance (t : Ticket) (now : Nat) : Option (Ticket × Journal) :=
  if t.ended.isSome then none
  else if t.cancelled then some (t.tearDown, [])
  else t.proceed now

def callStep (t : Ticket) (now : Nat) (e : CallEvent) : Ticket × Journal :=
  let (d, j) := t.dispatch.callStep now e
  (t.withDispatch d, j)

def finishCall (t : Ticket) (now : Nat) (how : CallEnd) : Ticket × Journal :=
  t.callStep now (.finish how)

/-- Asks the request to end. One that has ended stays as it is. -/
def cancel (t : Ticket) : Ticket :=
  if t.handle && t.ended.isNone then { t with cancelled := true } else t

def dropHandle (t : Ticket) : Ticket := { t with handle := false }

/-- A task that is asked to end while it runs may go on until it has to wait. -/
def step (t : Ticket) (now : Nat) : TicketEvent → Ticket × Journal
  | .advance => (t.proceed now).getD (t, [])
  | .call e => t.callStep now e
  | .cancel => (t.cancel, [])
  | .dropHandle => (t.dropHandle, [])
  | .tearDown => (t.tearDown, [])

/-- A run through events with their times, and what has happened in it, the latest first. -/
def run (t : Ticket) : List (Nat × TicketEvent) → Ticket × Journal
  | [] => (t, [])
  | (now, e) :: es =>
    let (t, j) := t.step now e
    let (t, more) := t.run es
    (t, more ++ j)

def isFinished (t : Ticket) : Bool := t.ended.isSome

def debugText (t : Ticket) : String :=
  "ResponseHandle \x7b finished: " ++ (if t.isFinished then "true" else "false") ++ " \x7d"

end Ticket

end EndpointClient
