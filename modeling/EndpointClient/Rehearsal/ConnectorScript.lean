import EndpointClient.Connector.Traffic
import EndpointClient.Rehearsal.Run

/-!
# EndpointClient.Rehearsal.ConnectorScript

Scripts for a connector over a scripted engine: requests that are waited for, and requests in the
background with their handles and callbacks.

* `ConnectorBench.play` plays a script, and looks at the calls one millisecond after its last step.
-/

namespace EndpointClient.Rehearsal

/-- A step of a script. A request that could not be built is skipped. -/
inductive ConnectorStep where
  | skip
  | execute (r : ClientRequest)
  | send (id : String) (r : ClientRequest) (deaf : Bool)
  | cancel (id : String)
  | finished (id : String)
  | forget (id : String)
  | await (id : String)
  | callback (id : String)
  | sleep (ms : Nat)
  | release (gate : String)
  | calls
  | engineShared
  | identity

inductive ConnectorAnswer where
  | skipped
  | done
  | gone
  | stuck
  | flag (b : Bool)
  | count (n : Nat)
  | outcome (o : SendOutcome)
  | panicked
  | sent (finished : Bool) (debug : String)
  | status (s : Except ConnectorError Http.StatusCode)
  | heard (os : List SendOutcome)
  | identity (c : Connector)

/-- A request in the background by its name in the script: its index, how much of what its callback
heard was looked at, and whether nobody listens to its callback. -/
structure SendName where
  id : String
  index : Nat
  looked : Nat
  deaf : Bool

/-- The world and the names of a script. -/
structure ConnectorBench where
  world : World
  connector : Connector
  names : List SendName := []

namespace ConnectorBench

def find? (b : ConnectorBench) (id : String) : Option (SendName × Send) :=
  (b.names.find? (·.id = id)).bind fun n => (b.world.sends[n.index]?).map fun s => (n, s)

/-- The request of a name whose handle is still held. -/
def held? (b : ConnectorBench) (id : String) : Option (SendName × Send) :=
  (b.find? id).filter (·.2.ticket.handle)

/-- A request that is about to be sent, with its index. -/
def add (w : World) (engine : Nat) (t : Ticket) : World × Nat :=
  ({ w with sends := w.sends ++ [⟨t, engine, none⟩] }, w.sends.length)

/-- Sends a request and waits for its outcome, `none` if the engine broke down. -/
def execute (w : World) (capacity engine : Nat) (r : ClientRequest) : World × Option SendOutcome :=
  let (w, i) := add w engine (.start .sync capacity r CallbackGuard.neverBreaks)
  let w := w.await (.send i)
  match (w.sends[i]?).bind (·.ticket.dispatch.ended) with
  | some (.completed o) => (w, some o)
  | _ => (w, none)

def dropHandle (b : ConnectorBench) (index : Nat) : ConnectorBench :=
  { b with world := b.world.modifySend index fun s => { s with ticket := s.ticket.dropHandle } }

def playStep (b : ConnectorBench) : ConnectorStep → ConnectorBench × ConnectorAnswer
  | .skip => (b, .skipped)
  | .execute r =>
    let (w, o) := execute b.world b.connector.pipeCapacity 0 r
    ({ b with world := w }, if w.stuck then .stuck else o.elim .panicked .outcome)
  | .send id r deaf =>
    let t := b.connector.ticket r CallbackGuard.neverBreaks
    let (w, i) := add b.world 0 t
    ({ b with world := w.spawn (.send i), names := ⟨id, i, 0, deaf⟩ :: b.names.filter (·.id ≠ id) },
      .sent t.isFinished t.debugText)
  | .cancel id =>
    match b.held? id with
    | none => (b, .gone)
    | some (n, _) =>
      let w := b.world.modifySend n.index fun s => { s with ticket := s.ticket.cancel }
      ({ b with world := w.wake }, .done)
  | .finished id =>
    match b.held? id with
    | none => (b, .gone)
    | some (_, s) => (b, .flag s.ticket.isFinished)
  | .forget id =>
    match b.held? id with
    | none => (b, .flag false)
    | some (n, _) => (b.dropHandle n.index, .flag true)
  | .await id =>
    match b.held? id with
    | none => (b, .gone)
    | some (n, _) =>
      let w := b.world.await (.handle n.index)
      match (w.sends[n.index]?).bind (·.ticket.ended) with
      | some e => (dropHandle { b with world := w } n.index, .status e.status)
      | none => ({ b with world := w }, .stuck)
  | .callback id =>
    match b.find? id with
    | none => (b, .gone)
    | some (n, s) =>
      let heard := if n.deaf then [] else s.ticket.heard.drop n.looked
      let names := b.names.map fun m =>
        if m.id = id then { m with looked := s.ticket.heard.length } else m
      ({ b with names := names }, .heard heard)
  | .sleep ms => ({ b with world := b.world.await (.sleep (b.world.now + ms)) }, .done)
  | .release gate => ({ b with world := (b.world.setGate gate .opened).wake }, .done)
  | .calls => (b, .count b.world.calls.length)
  | .engineShared => (b, .flag true)
  | .identity => (b, .identity b.connector)

def playAll : ConnectorBench → List ConnectorStep → ConnectorBench × List (ConnectorAnswer × Nat)
  | b, [] => (b, [])
  | b, s :: rest =>
    let (b, a) := b.playStep s
    let (b', lines) := playAll b rest
    (b', (a, b.world.now) :: lines)

def play (c : Connector) (e : EngineScript) (steps : List ConnectorStep) :
    World × List (ConnectorAnswer × Nat) :=
  let (b, lines) := playAll ⟨{ engines := [e] }, c, []⟩ steps
  (b.world.await (.sleep (b.world.now + 1)), lines)

end ConnectorBench

end EndpointClient.Rehearsal
