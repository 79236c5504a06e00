import EndpointClient.Rehearsal.ConnectorScript
import EndpointClient.Rehearsal.MonitorScript

/-!
# EndpointClient.Rehearsal.WireScript

Scripts for one engine on a network in memory: requests by the engine itself, through a connector,
and by monitors, one after another and one millisecond apart.

* `WireBench.play` plays a script. What the far side has read is in the network of the world.
-/

namespace EndpointClient.Rehearsal

/-- A request of a script. One that could not be built is skipped. -/
inductive WireStep where
  | skip
  | engine (r : EngineRequest) (body : Http.Chunks) (exactSize : Option Nat)
  | connector (capacity : Nat) (r : ClientRequest)
  | monitor (config : EndpointConfig) (address : IpAddress)

inductive WireAnswer where
  | skipped
  | stuck
  | result (r : Except EngineError Http.Response)
  | outcome (o : SendOutcome)
  | invalid (e : InvalidEndpoint)
  | shown (text : String)

namespace WireBench

/-- A further way to use the network, known by its index: with the bodies of responses read, or
not. -/
def addEngine (w : World) (isRead : Bool) : World × Nat :=
  ({ w with engines := w.engines ++ [.networked isRead] }, w.engines.length)

/-- Makes a monitor that probes once. -/
def makeMonitor (w : World) (p : MonitorPlan) : World × WireAnswer :=
  let index := w.watched.length
  let (w, engine) := addEngine w false
  let (w, c) := w.beginProbeCall engine p.target
  let w := w.await (.make (.start p w.now) engine c)
  (w, .shown ((w.watched[index]?).elim "" (·.monitor.display)))

def playStep (w : World) : WireStep → World × WireAnswer
  | .skip => (w, .skipped)
  | .engine r body exactSize =>
    let (w, engine) := addEngine w true
    let (w, c) := w.beginCall engine r exactSize (.chunks body)
    let w := w.await (.call c)
    match w.callEnd? c with
    | some (.returned r) => (w, .result r)
    | _ => (w, .stuck)
  | .connector capacity r =>
    let (w, engine) := addEngine w true
    let (w, o) := ConnectorBench.execute w capacity engine r
    (w, o.elim .stuck .outcome)
  | .monitor c address =>
    match MonitorKind.oneShot.prepare c address with
    | .error e => (w, .invalid e)
    | .ok p => makeMonitor w p

/-- Plays requests one after another, each with the time that it took. -/
def playAll : World → List WireStep → World × List (WireAnswer × Nat)
  | w, [] => (w, [])
  | w, s :: rest =>
    let began := w.now
    let (w, a) := playStep w s
    let took := w.now - began
    let (w', lines) := playAll (w.await (.sleep (w.now + 1))) rest
    (w', (if w.stuck then .stuck else a, took) :: lines)

def play (n : Network) (steps : List WireStep) : World × List (WireAnswer × Nat) :=
  playAll { network := n } steps

end WireBench

end EndpointClient.Rehearsal
