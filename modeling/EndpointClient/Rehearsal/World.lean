import EndpointClient.Connector.Basic
import EndpointClient.Connector.Ticket
import EndpointClient.Health.Query
import EndpointClient.Health.Report
import EndpointClient.Health.Shutdown
import EndpointClient.Health.Startup
import EndpointClient.Rehearsal.Engine
import EndpointClient.Shutdown

/-!
# EndpointClient.Rehearsal.World

Everything that takes part in a rehearsal: a clock, gates, scripted engines and their calls, requests
on their way, monitors, and the tasks that carry them on.

* A task runs until it has to wait; the others run in the order in which they became ready.
* The foreground is what the script waits for. It runs when no other task can.
* All times are milliseconds on the clock, which starts at zero.
-/

namespace EndpointClient.Rehearsal

open Http (Origin RequestHead)

/-- A gate that calls wait at. A gate that nobody has touched is shut. -/
inductive Gate where
  | shut
  | opened
  | closed
  deriving DecidableEq, Repr

/-- A request on its way, with its engine and the call made for it. -/
structure Send where
  ticket : Ticket
  engine : Nat
  call : Option Nat

/-- A call that runs in the background by itself. -/
structure Launch where
  engine : Nat
  request : EngineRequest
  body : Http.Chunks
  exactSize : Option Nat
  call : Option Nat
  aborted : Bool

/-- A monitor with its engine, the call of its scheduled probe, and whether it is still there. -/
structure Watched where
  monitor : Monitor
  engine : Nat
  call : Option Nat
  gone : Bool

/-- A query of a monitor: still to begin, waiting for the call of its own probe, or done. -/
inductive QueryJob where
  | fresh (q : HealthQuery)
  | probing (q : HealthQuery) (number call : Nat)
  | done (a : HealthAnswer)
  deriving DecidableEq, Repr

/-- What the script waits for. -/
inductive Foreground where
  | nothing
  | sleep (time : Nat)
  | ask (monitor : Nat) (jobs : List QueryJob)
  | make (draft : MonitorDraft) (engine call : Nat)
  | shutdown (jobs : List MonitorShutdown)
  | send (index : Nat)
  | handle (index : Nat)
  | call (index : Nat)
  | launch (index : Nat)
  | report (r : Report) (call : Option Nat)
  | startup (s : Startup) (call : Option Nat)

/-- A task: the foreground, a request in the background, the call for a request with an entity, a
call by itself, the schedule of a monitor, or the end of the reporting. -/
inductive Task where
  | front
  | send (index : Nat)
  | carry (index : Nat)
  | launch (index : Nat)
  | schedule (index : Nat)
  | alarm
  deriving DecidableEq, Repr

/-- How the reporting is ended: by signals, or by the end of the channel. -/
inductive Ending where
  | signals (n : Nat)
  | hangUp
  deriving DecidableEq, Repr

/-- Everything that takes part. -/
structure World where
  now : Nat := 0
  /-- A host has run for a while when a rehearsal starts. -/
  clock : Clock := .ofAge 3600
  gates : List (String × Gate) := []
  engines : List EngineScript := []
  network : Network := {}
  calls : List Call := []
  sends : List Send := []
  launches : List Launch := []
  watched : List Watched := []
  journal : Journal := []
  shutdown : Shutdown := .new
  listener : Listener := ⟨0⟩
  alarm : Option (Nat × Ending) := none
  front : Foreground := .nothing
  /-- The task that runs, those ready to run, and those that wait, each the earliest first. -/
  running : Option Task := none
  ready : List Task := []
  blocked : List Task := []
  stuck : Bool := false

namespace World

def note (w : World) (j : Journal) : World := { w with journal := j ++ w.journal }

def gate (w : World) (name : String) : Gate :=
  (w.gates.find? (·.1 = name)).elim .shut (·.2)

def setGate (w : World) (name : String) (g : Gate) : World :=
  if w.gate name = .closed then w
  else { w with gates := (name, g) :: w.gates.filter (·.1 ≠ name) }

/-- A task that is ready to run for the first time. -/
def spawn (w : World) (t : Task) : World := { w with ready := w.ready ++ [t] }

/-! ## Calls -/

def beginCall (w : World) (engine : Nat) (r : EngineRequest) (exactSize : Option Nat)
    (source : CallSource) : World × Nat :=
  match w.engines[engine]? with
  | none => (w, w.calls.length)
  | some e =>
    let (e, todo) := e.take
    let call : Call := ⟨engine, w.now, r, exactSize, source, [], 0, false, todo, .running⟩
    ({ w with engines := w.engines.set engine e, calls := w.calls ++ [call] }, w.calls.length)

def modifyCall (w : World) (c : Nat) (f : Call → Call) : World :=
  { w with calls := w.calls.modify c f }

def modifySend (w : World) (i : Nat) (f : Send → Send) : World :=
  { w with sends := w.sends.modify i f }

def dropBody (w : World) (c : Nat) : World :=
  match w.calls[c]? with
  | none => w
  | some k =>
    let w := w.modifyCall c fun k => { k with source := .gone }
    match k.source with
    | .send i =>
      w.modifySend i fun s =>
        { s with ticket := { s.ticket with dispatch := s.ticket.dispatch.dropBody } }
    | _ => w

def endCall (w : World) (c : Nat) (how : CallEnd) : World :=
  (w.dropBody c).modifyCall c fun k => { k with todo := [], state := .ended how }

def dropCall (w : World) (c : Nat) : World :=
  match w.calls[c]? with
  | some ⟨_, _, _, _, _, _, _, _, _, .running⟩ =>
    (w.dropBody c).modifyCall c fun k => { k with state := .dropped }
  | _ => w

def dropCall? (w : World) (c : Option Nat) : World := c.elim w w.dropCall

def callEnd? (w : World) (c : Nat) : Option CallEnd := (w.calls[c]?).bind Call.end?

def pull (w : World) (c : Nat) : World × Pull :=
  match w.calls[c]? with
  | none => (w, .pending)
  | some k =>
    match k.source with
    | .gone => (w, .ended)
    | .chunks [] => (w, .ended)
    | .chunks (.ok bs :: rest) =>
      (w.modifyCall c fun k => { k with source := .chunks rest }, .chunk bs)
    | .chunks (.error e :: rest) =>
      (w.modifyCall c fun k => { k with source := .chunks rest }, .failed e)
    | .send i =>
      match w.sends[i]? with
      | none => (w, .ended)
      | some s =>
        let (d, p) := s.ticket.dispatch.pull
        (w.modifySend i fun s => { s with ticket := { s.ticket with dispatch := d } }, p)

/-- Reads on in the request body of a call. `after` is what remains to be done after the end. -/
def readOn (w : World) (c : Nat) (after : List CallStep) : Option World :=
  match w.pull c with
  | (w, .chunk bs) =>
    some (w.modifyCall c fun k => { k with taken := bs :: k.taken, size := k.size + bs.length })
  | (w, .ended) =>
    some ((w.dropBody c).modifyCall c fun k => { k with whole := true, todo := after })
  | (w, .failed e) => some (w.endCall c (.returned (.error (.transport e.text))))
  | (_, .pending) => none

/-- Sets the steps of a call that are still to be done. -/
def withSteps (w : World) (c : Nat) (steps : List CallStep) : World :=
  w.modifyCall c fun k => { k with todo := steps }

/-- The call has its link: it sends its head, reads the request body, and hands both over. -/
def send (w : World) (c : Nat) (k : Call) (isRead : Bool) (call : LinkCall) (link : Link) : World :=
  let r := k.request
  let head := RequestHead.of r.method r.uri r.headers (.ofExact k.exactSize) link.older
  let reading := match head.framing with
    | .sized n => CallStep.readUpTo n
    | .chunked => .readAll
  w.withSteps c [reading, .deliver isRead call link head]

def turnLink (w : World) (c : Nat) (k : Call) (isRead : Bool) (link : Link) (later : LinkEvents) :
    LinkTurn → World
  | .goesOn call => w.withSteps c [.listen isRead call link later]
  | .ended (.error e) => w.endCall c (.returned (.error e))
  | .ended (.ok a) =>
    if isRead && a.body.finish = .pending then w.withSteps c []
    else
      { w with network := w.network.keep link k.request.method a isRead }.endCall c
        (.returned (.ok a.response))

def noteLookup (w : World) (u : Http.Uri) (pinned : Option PinnedResolver) : World :=
  match pinned, lookupName? u with
  | some p, some host => w.note [.hostResolved host p.address]
  | _, _ => w

def connect (w : World) (c : Nat) (k : Call) (isRead : Bool) (pinned : Option PinnedResolver) :
    World :=
  match Origin.of? k.request.method k.request.uri with
  | none => w.endCall c (.returned (.error LinkCall.noTarget))
  | some o =>
    let w := if (w.network.idle? o).isSome then w else w.noteLookup k.request.uri pinned
    let (n, link, event) := w.network.reach o
    let w := { w with network := n }
    let call := LinkCall.start k.request k.began
    match event with
    | none => w.withSteps c [.listen isRead call link []]
    | some e =>
      match call.next [(w.now, e)] with
      | some (_, .goesOn call) => w.send c k isRead call link
      | some (_, turn) => w.turnLink c k isRead link [] turn
      | none => w

/-- The far side gets what there is of a request. It waits for more of one that is not whole. -/
def deliver (w : World) (c : Nat) (k : Call) (isRead : Bool) (call : LinkCall) (link : Link)
    (head : RequestHead) : World :=
  match head.framing.payload? k.received with
  | none => w.endCall c (.returned (.error LinkCall.brokenLink))
  | some body =>
    if head.isWhole body then
      let (n, link, events) := w.network.deliver w.now link head body
      { w with network := n }.withSteps c [.listen isRead call link events]
    else w.withSteps c [.listen isRead call link []]

/-- What comes first on the link of a call, if its time has come. -/
def listen (w : World) (c : Nat) (k : Call) (isRead : Bool) (call : LinkCall) (link : Link)
    (events : LinkEvents) : Option World :=
  match call.next events with
  | none => none
  | some (time, turn) =>
    if time ≤ w.now then some (w.turnLink c k isRead link (events.drop 1) turn) else none

/-- The next step of a call, `none` while it has to wait and after its end. -/
def stepCall (w : World) (c : Nat) : Option World :=
  match w.calls[c]? with
  | none => none
  | some k =>
    let goOn (rest : List CallStep) := w.modifyCall c fun k => { k with todo := rest }
    if !k.state.isRunning then none
    else
      match k.todo with
      | [] => none
      | .pass g :: rest =>
        match w.gate g with
        | .shut => none
        | .opened => some (goOn rest)
        | .closed => some (w.endCall c (.returned (.error (.transport "semaphore closed"))))
      | .readAll :: rest => w.readOn c rest
      | .readUpTo n :: rest =>
        if n ≤ k.size then some ((goOn rest).dropBody c) else w.readOn c rest
      | .dropBody :: rest => some ((goOn rest).dropBody c)
      | .wait ms :: rest => some (goOn (.waitUntil (w.now + ms) :: rest))
      | .waitUntil t :: rest => if t ≤ w.now then some (goOn rest) else none
      | .answer a :: _ => some (w.endCall c (a.toEnd k.received))
      | .connect isRead pinned :: _ => some (w.connect c k isRead pinned)
      | .deliver isRead call link head :: _ => some (w.deliver c k isRead call link head)
      | .listen isRead call link events :: _ => w.listen c k isRead call link events

def callDeadline? (w : World) (c : Nat) : Option Nat := (w.calls[c]?).bind Call.deadline?

end World

end EndpointClient.Rehearsal
