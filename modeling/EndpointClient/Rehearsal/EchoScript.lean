import EndpointClient.Rehearsal.ConnectorScript
import EndpointClient.Rehearsal.MonitorScript

/-!
# EndpointClient.Rehearsal.EchoScript

Scripts for the plain scripted engine, which sends back what it is sent: calls that are waited for
and calls in the background, and the engine under a connector and under a monitor.

* `EchoBench.play` plays a script.
-/

namespace EndpointClient.Rehearsal

/-- A step of a script. A request that could not be built is skipped. -/
inductive EchoStep where
  | skip
  | send (r : EngineRequest) (body : Http.Chunks)
  | start (id : String) (r : EngineRequest) (body : Http.Chunks)
  | await (id : String)
  | abort (id : String)
  | push (r : EchoReply)
  | execute (r : ClientRequest) (capacity : Nat)
  | monitor (c : EndpointConfig) (address : IpAddress)
  | release (gate : String)
  | close (gate : String)
  | sleep (ms : Nat)
  | calls

inductive EchoAnswer where
  | skipped
  | done
  | gone
  | stuck
  | aborted
  | flag (b : Bool)
  | count (n : Nat)
  | result (r : Except EngineError Http.Response)
  | outcome (o : SendOutcome)
  | invalid (e : InvalidEndpoint)
  | monitored (first : String) (read : Bool) (checked : HealthState)

/-- The world of a script, how long its engine takes, and the calls in the background by name. -/
structure EchoBench where
  world : World
  delayMs : Nat
  names : List (String × Nat) := []

namespace EchoBench

def endAnswer : Option CallEnd → EchoAnswer
  | some (.returned r) => .result r
  | _ => .stuck

def find? (b : EchoBench) (id : String) : Option Nat := (b.names.find? (·.1 = id)).map (·.2)

/-- Makes a monitor that probes once, reads it, and probes again. -/
def monitor (w : World) (p : MonitorPlan) : World × EchoAnswer :=
  let index := w.watched.length
  let (w, c) := w.beginProbeCall 0 p.target
  let w := w.await (.make (.start p w.now) 0 c)
  let first := (w.watched[index]?).elim "" (·.monitor.display)
  let (w, reads) := MonitorBench.ask w index .isHealthy 1
  let (w, checks) := MonitorBench.ask w index .check 1
  match MonitorBench.flags reads, MonitorBench.states checks with
  | [read], [checked] => (w, .monitored first read checked)
  | _, _ => (w, .stuck)

def playStep (b : EchoBench) : EchoStep → EchoBench × EchoAnswer
  | .skip => (b, .skipped)
  | .send r body =>
    let (w, c) := b.world.beginCall 0 r none (.chunks body)
    let w := w.await (.call c)
    ({ b with world := w }, endAnswer (w.callEnd? c))
  | .start id r body =>
    let i := b.world.launches.length
    let l : Launch := ⟨0, r, body, none, none, false⟩
    let w := { b.world with launches := b.world.launches ++ [l] }
    ({ b with world := w.spawn (.launch i), names := (id, i) :: b.names.filter (·.1 ≠ id) }, .done)
  | .await id =>
    match b.find? id with
    | none => (b, .gone)
    | some i =>
      let w := b.world.await (.launch i)
      let b := { b with world := w, names := b.names.filter (·.1 ≠ id) }
      match w.launches[i]? with
      | none => (b, .gone)
      | some l =>
        if l.aborted then (b, .aborted) else (b, endAnswer (l.call.bind w.callEnd?))
  | .abort id =>
    match b.find? id with
    | none => (b, .flag false)
    | some i =>
      let w := b.world
      let w := if w.launchIsOver i then w
        else { w with launches := w.launches.modify i fun l => { l with aborted := true } }
      ({ b with world := w.wake }, .flag true)
  | .push r =>
    let w := b.world
    let w := { w with engines := w.engines.map fun e => e.push (r.plan b.delayMs) }
    ({ b with world := w }, .done)
  | .execute r capacity =>
    let (w, o) := ConnectorBench.execute b.world capacity 0 r
    ({ b with world := w }, o.elim .stuck .outcome)
  | .monitor c address =>
    match MonitorKind.oneShot.prepare c address with
    | .error e => (b, .invalid e)
    | .ok p =>
      let (w, a) := monitor b.world p
      ({ b with world := w }, a)
  | .release gate => ({ b with world := (b.world.setGate gate .opened).wake }, .done)
  | .close gate => ({ b with world := (b.world.setGate gate .closed).wake }, .done)
  | .sleep ms => ({ b with world := b.world.await (.sleep (b.world.now + ms)) }, .done)
  | .calls => (b, .count b.world.calls.length)

def playAll : EchoBench → List EchoStep → EchoBench × List (EchoAnswer × Nat)
  | b, [] => (b, [])
  | b, s :: rest =>
    let (b, a) := b.playStep s
    let (b', lines) := playAll b rest
    (b', (if b.world.stuck then .stuck else a, b.world.now) :: lines)

/-- Plays a script on an engine that takes `delayMs`, with its replies and the status after them. -/
def play (delayMs fallback : Nat) (replies : List EchoReply) (steps : List EchoStep) :
    World × List (EchoAnswer × Nat) :=
  let engine : EngineScript :=
    ⟨replies.map (EchoReply.plan delayMs), (EchoReply.status fallback).plan delayMs⟩
  let (b, lines) := playAll ⟨{ engines := [engine] }, delayMs, []⟩ steps
  (b.world, lines)

end EchoBench

end EndpointClient.Rehearsal
