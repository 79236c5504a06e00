import EndpointClient.Rehearsal.Run

/-!
# EndpointClient.Rehearsal.ReportScript

Rehearsals of the daemon's work: monitors are made, reported on until the signal to end comes, and
stopped.

* `ReportBench.play` has a scripted engine for each monitor.
* `LifecycleBench.play` makes and stops the monitors of a configuration none of whose endpoints can
  be reached.
-/

namespace EndpointClient.Rehearsal

structure ReportedMonitor where
  config : EndpointConfig
  address : IpAddress
  engine : EngineScript

/-- How long reporting goes on: its period, when it is ended after its start, and how. -/
structure ReportPlan where
  period : Nat
  endsAfter : Nat
  ending : Ending
  thenStop : Bool

/-- A monitor after the reporting: its text, and the calls of its engine, each with the time since
the engine was made and how it stands. -/
structure ReportedLine where
  display : String
  calls : List (Nat × CallState)

/-- What comes of reporting: how long it took, the monitors, and once they were stopped the time
since the start of the reporting with whether they are scheduled. -/
structure ReportResult where
  elapsed : Nat
  lines : List ReportedLine
  stopped : Option (Nat × List Bool)

namespace World

def stopAll (w : World) : World :=
  (w.await (.shutdown (MonitorShutdown.ofAll w.monitors))).note [.monitorsStopped w.watched.length]

def scheduledFlags (w : World) : List Bool := w.monitors.map Monitor.isScheduled

end World

namespace ReportBench

/-- Makes monitors one after another, each with the time at which its engine was made. -/
def make : World → List ReportedMonitor → Except InvalidEndpoint (World × List Nat)
  | w, [] => .ok (w, [])
  | w, m :: rest => do
    let p ← MonitorKind.configured.prepare m.config m.address
    let engine := w.engines.length
    let made := w.now
    let w := { w with engines := w.engines ++ [m.engine] }
    let (w, c) := w.beginProbeCall engine p.target
    let w := w.await (.make (.start p w.now) engine c)
    let (w, times) ← make w rest
    return (w, made :: times)

def lines (w : World) (times : List Nat) : List ReportedLine :=
  (w.watched.zip times).map fun (x, made) =>
    ⟨x.monitor.display, (w.calls.filter (·.engine = x.engine)).map fun c => (c.began - made, c.state)⟩

/-- Ends the reporting beforehand, or sets the time for it. -/
def arrange (w : World) (p : ReportPlan) : World :=
  let (s, l) := w.shutdown.subscribe
  let w := { w with shutdown := s, listener := l, alarm := some (w.now + p.endsAfter, p.ending) }
  if p.endsAfter = 0 then
    match w.step .alarm with
    | .ended w => w
    | _ => w
  else w.spawn .alarm

def play (monitors : List ReportedMonitor) (p : ReportPlan) :
    Except InvalidEndpoint (World × ReportResult) := do
  let (w, times) ← make {} monitors
  let began := w.now
  let w := arrange w p
  let w := w.await (.report (.start w.clock began p.period) none)
  let result : ReportResult := ⟨w.now - began, lines w times, none⟩
  if p.thenStop then
    let w := w.stopAll
    return (w, { result with stopped := some (w.now - began, w.scheduledFlags) })
  else return (w, result)

end ReportBench

/-- What comes of making and stopping monitors: the monitors made, and whether they are scheduled
after that. -/
structure LifecycleResult where
  monitors : List Monitor
  scheduledAfter : List Bool

namespace LifecycleBench

def engines (c : ClientConfig) : List EngineScript :=
  (Startup.pairs c).map fun (_, a) => .pinned a

/-- Makes the monitors of a configuration on a network, after what has happened before. -/
def start (n : Network) (before : Journal) (c : ClientConfig) : World × Option InvalidEndpoint :=
  let w : World := { network := n, journal := before, engines := engines c }
  let w := w.await (.startup (.start c) none)
  match w.front with
  | .startup s _ => (w, s.failed)
  | _ => (w, none)

def play (c : ClientConfig) : World × Except InvalidEndpoint LifecycleResult :=
  match start .unreachable [] c with
  | (w, some e) => (w, .error e)
  | (w, none) =>
    let made := w.monitors
    let w := w.stopAll
    (w, .ok ⟨made, w.scheduledFlags⟩)

end LifecycleBench

end EndpointClient.Rehearsal
