import EndpointClient.Health.Monitor

/-!
# EndpointClient.Health.Startup

How monitors come to be: from an endpoint and one of its addresses, with a first probe before
anything else.

* `MonitorKind.prepare` is what a monitor is made of, or why it cannot be made.
* `Startup` makes a monitor for every address of every endpoint, one after another. It ends at the
  first endpoint that cannot be probed, and then stops those it had made.
-/

namespace EndpointClient

/-- Which monitor is wanted: one that probes once, one with a schedule, or as the configuration of
the endpoint has it. -/
inductive MonitorKind where
  | oneShot
  | recurring
  | configured
  deriving DecidableEq, Repr

/-- What a monitor is made of: its target, and the period of its schedule if it is to have one. -/
structure MonitorPlan where
  target : ProbeTarget
  period : Option Nat

/-- What a monitor of an address is made of. A schedule needs an interval, which is looked at
first. -/
def MonitorKind.prepare (k : MonitorKind) (c : EndpointConfig) (address : IpAddress) :
    Except InvalidEndpoint MonitorPlan :=
  let period := c.checkInterval.map Duration.millis
  match k with
  | .oneShot => (ProbeTarget.ofConfig c address).map fun t => ⟨t, none⟩
  | .configured => (ProbeTarget.ofConfig c address).map fun t => ⟨t, period⟩
  | .recurring =>
    match period with
    | none => .error ⟨c.hostname, .zeroInterval⟩
    | some p => (ProbeTarget.ofConfig c address).map fun t => ⟨t, some p⟩

/-- A monitor in the making: its first probe is in flight, or has ended. -/
structure MonitorDraft where
  monitor : Monitor
  period : Option Nat
  anchor : Nat

namespace MonitorDraft

def start (p : MonitorPlan) (now : Nat) : MonitorDraft :=
  ⟨((Monitor.new p.target).beginProbe now).1, p.period, now⟩

/-- The monitor, once its first probe has ended. Its schedule counts from the beginning of that
probe. -/
def complete (d : MonitorDraft) (c : Clock) : Monitor × Journal :=
  match d.period with
  | none => (d.monitor, [])
  | some p => d.monitor.scheduleFrom c d.anchor p

end MonitorDraft

/-- The making of monitors: the addresses still to come with their endpoints, the monitor in the
making, and the endpoint that could not be probed. -/
structure Startup where
  todo : List (EndpointConfig × IpAddress)
  current : Option (EndpointConfig × MonitorDraft)
  failed : Option InvalidEndpoint

namespace Startup

/-- The addresses of a configuration, each with its endpoint. -/
def pairs (c : ClientConfig) : List (EndpointConfig × IpAddress) :=
  c.endpoints.flatMap fun e => e.addresses.map fun a => (e, a)

def start (c : ClientConfig) : Startup := ⟨pairs c, none, none⟩

/-- The next step with the monitors made so far, `none` while a first probe is in flight and when
all is done. -/
def advance (s : Startup) (clock : Clock) (now : Nat) (made : List Monitor) :
    Option (Startup × List Monitor × Journal) :=
  match s.current with
  | some (c, d) =>
    if d.monitor.inFlight.isEmpty then
      let (m, j) := d.complete clock
      some ({ s with current := none }, made ++ [m],
        .monitorStarted c.name m.target m.state m.isScheduled :: j)
    else none
  | none =>
    match s.todo with
    | [] => none
    | (c, a) :: rest =>
      match MonitorKind.configured.prepare c a with
      | .ok p => some ({ s with todo := rest, current := some (c, .start p now) }, made, [])
      | .error e => some (⟨[], none, some e⟩, made.map Monitor.stop, [])

def endProbe (s : Startup) (now : Nat) (r : ProbeResult) : Startup × Journal :=
  match s.current with
  | some (c, d) =>
    let (m, j) := d.monitor.endProbe 0 now r
    ({ s with current := some (c, { d with monitor := m }) }, j)
  | none => (s, [])

def isDone (s : Startup) : Bool := s.todo.isEmpty && s.current.isNone

end Startup

end EndpointClient
