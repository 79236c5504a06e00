import EndpointClient.Rehearsal.Run

/-!
# EndpointClient.Rehearsal.MonitorScript

Scripts for the monitor of one address, over a scripted engine.

* `MonitorBench.play` makes the monitor and plays the steps. The first line is the making.
-/

namespace EndpointClient.Rehearsal

inductive MonitorStep where
  | isHealthy
  | concurrent (count : Nat)
  | check
  | stop
  | shutdown (grace : Nat)
  | display
  | debug
  | identity
  | sleep (ms : Nat)
  | release (gate : String)
  | drop
  deriving DecidableEq, Repr

inductive MonitorAnswer where
  | made
  | done
  | gone
  | stuck
  | flag (b : Bool)
  | flags (bs : List Bool)
  | text (s : String)
  | identity (target : ProbeTarget)

/-- A step with what came of it, when, and how things stood then. -/
structure MonitorLine where
  answer : MonitorAnswer
  time : Nat
  calls : Nat
  state : Option HealthState
  scheduled : Option Bool

namespace MonitorBench

/-- The monitor, while it is there. -/
def monitor? (w : World) : Option Monitor :=
  match w.watched with
  | [x] => if x.gone then none else some x.monitor
  | _ => none

def line (w : World) (a : MonitorAnswer) : MonitorLine :=
  let m := monitor? w
  ⟨if w.stuck then .stuck else a, w.now, w.calls.length, m.map (·.state), m.map (·.isScheduled)⟩

def modify (w : World) (f : Monitor → Monitor) : World :=
  (w.putMonitors (w.monitors.map f)).wake

/-- Asks a monitor several times at once. -/
def ask (w : World) (i : Nat) (q : HealthQuery) (count : Nat) : World × List HealthAnswer :=
  let w := w.await (.ask i (List.replicate count (.fresh q)))
  match w.front with
  | .ask _ jobs => (w, jobs.filterMap fun | .done a => some a | _ => none)
  | _ => (w, [])

def flags (as : List HealthAnswer) : List Bool :=
  as.filterMap fun | .flag b => some b | _ => none

def states (as : List HealthAnswer) : List HealthState :=
  as.filterMap fun | .state s => some s | _ => none

def playOn (w : World) (m : Monitor) : MonitorStep → World × MonitorAnswer
  | .isHealthy =>
    let (w, as) := ask w 0 .isHealthy 1
    (w, .flag ((flags as).all id))
  | .concurrent count =>
    let (w, as) := ask w 0 .isHealthy count
    (w, .flags (flags as))
  | .check =>
    let (w, as) := ask w 0 .check 1
    (w, .text ((states as).head?.elim "" HealthState.text))
  | .stop => (modify w Monitor.stop, .done)
  | .shutdown grace => (w.await (.shutdown [.start grace]), .done)
  | .display => (w, .text m.display)
  | .debug => (w, .text m.debugText)
  | .identity => (w, .identity m.target)
  | .sleep ms => (w.await (.sleep (w.now + ms)), .done)
  | .release gate => ((w.setGate gate .opened).wake, .done)
  | .drop =>
    (modify { w with watched := w.watched.map fun x => { x with gone := true } } Monitor.stop,
      .flag true)

def playStep (w : World) (s : MonitorStep) : World × MonitorAnswer :=
  match monitor? w, s with
  | some m, s => playOn w m s
  | none, .sleep ms => (w.await (.sleep (w.now + ms)), .done)
  | none, .release gate => ((w.setGate gate .opened).wake, .done)
  | none, .drop => (w, .flag false)
  | none, _ => (w, .gone)

def playAll : World → List MonitorStep → World × List MonitorLine
  | w, [] => (w, [])
  | w, s :: rest =>
    let (w, a) := playStep w s
    let (w', lines) := playAll w rest
    (w', line w a :: lines)

/-- Makes the monitor of a plan with an engine of its own. -/
def make (w : World) (p : MonitorPlan) (e : EngineScript) : World :=
  let engine := w.engines.length
  let w := { w with engines := w.engines ++ [e] }
  let (w, c) := w.beginProbeCall engine p.target
  w.await (.make (.start p w.now) engine c)

def play (k : MonitorKind) (c : EndpointConfig) (address : IpAddress) (e : EngineScript)
    (steps : List MonitorStep) : Except InvalidEndpoint (World × List MonitorLine) :=
  (k.prepare c address).map fun p =>
    let w := make {} p e
    let (w', lines) := playAll w steps
    (w', line w .made :: lines)

end MonitorBench

end EndpointClient.Rehearsal
