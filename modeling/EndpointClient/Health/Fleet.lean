import EndpointClient.Health.Monitor

/-!
# EndpointClient.Health.Fleet

Monitors that live side by side, with what has happened to all of them.

* `Fleet.step` is what happens to them: one more monitor comes to be, before its first probe, or
  something happens to one of those that are there. Some of them may have the same target.
-/

namespace EndpointClient

/-- Monitors in the order in which they came to be, and what has happened, the latest first. -/
structure Fleet where
  monitors : List Monitor
  journal : Journal

/-- What happens to monitors: one more comes to be, or something happens to the one at an index. -/
inductive FleetEvent where
  | add (t : ProbeTarget)
  | happens (index : Nat) (ev : MonitorEvent)

namespace Fleet

def empty : Fleet := ⟨[], []⟩

def step (w : Fleet) (now : Nat) : FleetEvent → Fleet
  | .add t => { w with monitors := w.monitors ++ [.new t] }
  | .happens i ev =>
    match w.monitors[i]? with
    | none => w
    | some m =>
      let (m, j) := m.step now ev
      { w with monitors := w.monitors.set i m, journal := j ++ w.journal }

def run (w : Fleet) (es : List (Nat × FleetEvent)) : Fleet :=
  es.foldl (fun w u => w.step u.1 u.2) w

end Fleet

end EndpointClient
