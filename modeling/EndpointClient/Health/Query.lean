import EndpointClient.Health.Monitor

/-!
# EndpointClient.Health.Query

What callers ask a monitor, and what they are told.

* `HealthQuery.ask` is a query up to where it has to wait. Whoever asks whether the monitor is
  healthy is told so at once if it is, and waits for a probe if it is not.
* `HealthQuery.resume` is the rest of a query that waited, in one go with the end of its probe.
-/

namespace EndpointClient

/-- A query: whether the monitor is healthy, the state that it keeps, or the state that a probe
finds now. -/
inductive HealthQuery where
  | isHealthy
  | state
  | check
  deriving DecidableEq, Repr

inductive HealthAnswer where
  | flag (healthy : Bool)
  | state (s : HealthState)
  deriving DecidableEq, Repr

inductive QueryPhase where
  | probing (number : Nat)
  | answered (a : HealthAnswer)
  deriving DecidableEq, Repr

namespace HealthQuery

def ask (q : HealthQuery) (now : Nat) (m : Monitor) : Monitor × QueryPhase :=
  match q with
  | .isHealthy =>
    if m.state.isHealthy then (m, .answered (.flag m.state.isHealthy))
    else
      let (m, number) := m.beginProbe now
      (m, .probing number)
  | .state => (m, .answered (.state m.state))
  | .check =>
    let (m, number) := m.beginProbe now
    (m, .probing number)

/-- What is told after a probe that has come to a result. Whether the monitor is healthy is looked up
in the state that it keeps. -/
def reply (q : HealthQuery) (r : ProbeResult) (m : Monitor) : HealthAnswer :=
  match q with
  | .isHealthy => .flag m.state.isHealthy
  | .state => .state m.state
  | .check => .state r.state

def resume (q : HealthQuery) (now number : Nat) (r : ProbeResult) (m : Monitor) :
    Monitor × Journal × HealthAnswer :=
  let (m, j) := m.endProbe number now r
  (m, j, q.reply r m)

end HealthQuery

end EndpointClient
