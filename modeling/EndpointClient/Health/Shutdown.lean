import EndpointClient.Health.Monitor

/-!
# EndpointClient.Health.Shutdown

The end of monitors: each is told to stop, and gets some time for a probe in flight.

* `MonitorShutdown` is the shutdown of one monitor: it stops the monitor and waits for the schedule
  that it gives up, until the grace is over. `MonitorShutdown.advance` is its next step.
* `MonitorShutdown.advanceFirst` carries on several shutdowns next to one another.
-/

namespace EndpointClient

inductive ShutdownPhase where
  | fresh
  | waiting (deadline : Nat)
  | ended
  deriving DecidableEq, Repr

/-- The shutdown of a monitor, with the time that it leaves a probe in flight. -/
structure MonitorShutdown where
  grace : Nat
  phase : ShutdownPhase
  deriving DecidableEq, Repr

namespace MonitorShutdown

def start (grace : Nat) : MonitorShutdown := ⟨grace, .fresh⟩

def ofAll (ms : List Monitor) : List MonitorShutdown := ms.map fun _ => start Monitor.defaultGrace

def isOver (s : MonitorShutdown) : Bool := s.phase = .ended

/-- What a shutdown waits for at the latest. -/
def deadline? (s : MonitorShutdown) : Option Nat :=
  match s.phase with
  | .waiting deadline => some deadline
  | _ => none

/-- Stops the monitor. There is nothing to wait for if it has no schedule to give up. -/
def begin (s : MonitorShutdown) (now : Nat) (m : Monitor) : MonitorShutdown × Monitor :=
  match m.beginShutdown with
  | (m, true) => ({ s with phase := .waiting (now + s.grace) }, m)
  | (m, false) => ({ s with phase := .ended }, m)

theorem begin_eq (s : MonitorShutdown) (now : Nat) (m : Monitor) : s.begin now m =
    ({ s with phase := if m.holdsSchedule then .waiting (now + s.grace) else .ended },
      m.beginShutdown.1) := by
  cases h : m.holdsSchedule with
  | true => simp [begin, Monitor.beginShutdown, h]
  | false => simp [begin, Monitor.beginShutdown, h]

/-- The next step of a shutdown with its monitor, `none` while it waits and after its end. The end
of the schedule comes before the end of the grace. -/
def advance (s : MonitorShutdown) (now : Nat) (m : Monitor) :
    Option (MonitorShutdown × Monitor × Journal) :=
  match s.phase with
  | .fresh =>
    let (s, m) := s.begin now m
    some (s, m, [])
  | .waiting deadline =>
    if m.scheduleIsOver then some ({ s with phase := .ended }, m, [])
    else if deadline ≤ now then
      let (m, j) := m.endShutdown s.grace
      some ({ s with phase := .ended }, m, j)
    else none
  | .ended => none

theorem advance_of_over {m : Monitor} (h : m.scheduleIsOver = true) (grace deadline now : Nat) :
    advance ⟨grace, .waiting deadline⟩ now m = some (⟨grace, .ended⟩, m, []) := by
  simp [advance, h]

theorem advance_of_held {m : Monitor} (h : m.scheduleIsOver = false) (grace deadline now : Nat) :
    advance ⟨grace, .waiting deadline⟩ now m =
      if deadline ≤ now then some (⟨grace, .ended⟩, m.endShutdown grace) else none := by
  simp [advance, h]

/-- The next step of the first of several shutdowns that can go on, each with the monitor at its
place. -/
def advanceFirst (now : Nat) :
    List MonitorShutdown → List Monitor → Option (List MonitorShutdown × List Monitor × Journal)
  | s :: rest, m :: ms =>
    match s.advance now m with
    | some (s, m, j) => some (s :: rest, m :: ms, j)
    | none => (advanceFirst now rest ms).map fun (rest, ms, j) => (s :: rest, m :: ms, j)
  | _, _ => none

end MonitorShutdown

end EndpointClient
