import EndpointClient.Observe.Journal
import EndpointClient.Text.Quoted

/-!
# EndpointClient.Health.Monitor

The monitor of one resolved address: the state that the last completed probe left, the probes in
flight, and a schedule or none.

* Probes begin with `Monitor.beginProbe` and end with `Monitor.endProbe` or `Monitor.dropProbe`, in
  any order. Only a probe that ends stores a state.
* `Monitor.pollSchedule` is the schedule up to where it has to wait, `none` if it waits already. Its
  ticks are a fixed period apart, and none is skipped after a slow probe. It looks whether it was
  stopped before it takes a tick (`Monitor.takeTick`) and once more before it uses one
  (`Monitor.useTick`).
* `Monitor.stop` ends the schedule, but lets a probe in flight run to its end;
  `Monitor.abortSchedule` drops that probe too.
* `Monitor.step` is all that happens to a monitor as events.

A step is what a task does from one place where it waits to the next. So the look at the stop and
the beginning of the probe are one step in `Monitor.useTick`, and in `Monitor.endProbe` a state is
stored in one step with what is logged and counted of its probe.

All times are milliseconds on one clock.
-/

namespace EndpointClient

/-- A clock, by its last instant. A program that asks for a later one breaks down. -/
structure Clock where
  last : Nat
  deriving DecidableEq, Repr

namespace Clock

def reaches (c : Clock) (t : Nat) : Bool := decide (t ≤ c.last)

@[simp]
theorem reaches_iff {c : Clock} {t : Nat} : c.reaches t = true ↔ t ≤ c.last := by
  simp [reaches]

/-- A clock that counts its seconds in 63 bits, as it is `age` seconds after it began. -/
def ofAge (age : Nat) : Clock := ⟨(9223372036854775808 - age) * 1000 - 1⟩

end Clock

structure Probe where
  number : Nat
  began : Nat
  deriving DecidableEq, Repr

/-- What a schedule does: it waits for its next tick, has taken a tick, or waits for its probe. Or it
has not had a turn yet, and its first tick is beyond the clock. Or it is over: stopped, aborted, or
broken down. -/
inductive SchedulePhase where
  | idle
  | beyond
  | ticked
  | probing (number : Nat)
  | stopped
  | aborted
  | broken
  deriving DecidableEq, Repr

/-- A schedule: the time between its ticks, the next tick not yet taken, and what it does. -/
structure Schedule where
  period : Nat
  next : Nat
  phase : SchedulePhase
  deriving DecidableEq, Repr

/-- A schedule that counts its ticks from `anchor`, before its first turn. -/
def Schedule.start (c : Clock) (anchor period : Nat) : Schedule :=
  ⟨period, anchor + period, if c.reaches (anchor + period) then .idle else .beyond⟩

theorem Schedule.start_phase (c : Clock) (anchor period : Nat) :
    (start c anchor period).phase = .idle ∨ (start c anchor period).phase = .beyond := by
  unfold start
  cases c.reaches (anchor + period)
  · exact .inr rfl
  · exact .inl rfl

def Schedule.isOver (s : Schedule) : Bool :=
  match s.phase with
  | .idle => false
  | .beyond => false
  | .ticked => false
  | .probing _ => false
  | _ => true

/-- A schedule whose probe has ended waits for its next tick. -/
def Schedule.resume (s : Schedule) (number : Nat) : Schedule :=
  if s.phase = .probing number then { s with phase := .idle } else s

structure Monitor where
  target : ProbeTarget
  flag : HealthFlag
  /-- How many probes have begun. -/
  begun : Nat
  inFlight : List Probe
  stopped : Bool
  schedule : Option Schedule
  /-- Whether the schedule is still the monitor's own, not given up to a shutdown. -/
  holdsSchedule : Bool

/-- What happens to a monitor: a caller reads it, which probes it first unless it is healthy, or has
it probed; the engine answers a probe; the caller that waits for a probe drops it; the schedule is
set up, takes a tick, uses it, or breaks down with the engine; the monitor is stopped or goes away; a
shutdown begins, or its time runs out. -/
inductive MonitorEvent where
  | read
  | check
  | answered (number : Nat) (r : ProbeResult)
  | giveUp (number : Nat)
  | schedule (clock : Clock) (anchor period : Nat)
  | takeTick
  | useTick
  | breakDown
  | stop
  | drop
  | shutdown
  | expire (grace : Nat)

namespace Monitor

/-- The monitor of a target, without a schedule, before its first probe. -/
def new (t : ProbeTarget) : Monitor := ⟨t, {}, 0, [], false, none, false⟩

/-- The state that the last completed probe left. -/
def state (m : Monitor) : HealthState := m.flag.state

def beginProbe (m : Monitor) (now : Nat) : Monitor × Nat :=
  ({ m with begun := m.begun + 1, inFlight := m.inFlight ++ [⟨m.begun, now⟩] }, m.begun)

def forget (m : Monitor) (number : Nat) : Monitor :=
  { m with inFlight := m.inFlight.filter (·.number ≠ number) }

def isInFlight (m : Monitor) (number : Nat) : Bool := m.inFlight.any (·.number = number)

/-- A probe ends with a result, and its state is stored. -/
def endProbe (m : Monitor) (number now : Nat) (r : ProbeResult) : Monitor × Journal :=
  match m.inFlight.find? (·.number = number) with
  | none => (m, [])
  | some p =>
    ({ m.forget number with
        flag := m.flag.store r.state, schedule := m.schedule.map (Schedule.resume · number) },
      [.probed ⟨m.target, r, .ofMillis (now - p.began)⟩])

def dropProbe (m : Monitor) (number : Nat) : Monitor := m.forget number

/-- Sets up the schedule of a monitor whose first probe began at `anchor`. -/
def scheduleFrom (m : Monitor) (c : Clock) (anchor period : Nat) : Monitor × Journal :=
  ({ m with schedule := some (.start c anchor period), holdsSchedule := true },
    [.scheduleStarted m.target (.ofMillis period)])

/-- The schedule comes to its end since it was stopped. -/
def haltSchedule (m : Monitor) (period next : Nat) : Monitor × Journal :=
  ({ m with schedule := some ⟨period, next, .stopped⟩ }, [.scheduleStopped m.target])

/-- The schedule waits no longer: it was stopped, or a tick is due. The stop comes first. A schedule
whose first tick is beyond the clock breaks down at its first turn, stopped or not. -/
def takeTick (m : Monitor) (now : Nat) : Option (Monitor × Journal) :=
  match m.schedule with
  | some ⟨period, next, .beyond⟩ => some ({ m with schedule := some ⟨period, next, .broken⟩ }, [])
  | some ⟨period, next, .idle⟩ =>
    if m.stopped then some (m.haltSchedule period next)
    else if next ≤ now then
      some ({ m with schedule := some ⟨period, next + period, .ticked⟩ }, [])
    else none
  | _ => none

/-- A tick that was taken begins a probe, unless the schedule was stopped in between. -/
def useTick (m : Monitor) (now : Nat) : Option (Monitor × Journal) :=
  match m.schedule with
  | some ⟨period, next, .ticked⟩ =>
    if m.stopped then some (m.haltSchedule period next)
    else
      let (m, number) := m.beginProbe now
      some ({ m with schedule := some ⟨period, next, .probing number⟩ }, [])
  | _ => none

/-- The schedule goes on to where it has to wait: to its end if it was stopped, to a probe if a tick
is due. -/
def pollSchedule (m : Monitor) (now : Nat) : Option (Monitor × Journal) :=
  match m.takeTick now with
  | some (m, j) => some ((m.useTick now).getD (m, j))
  | none => m.useTick now

/-- The schedule breaks down together with its probe. -/
def breakSchedule (m : Monitor) : Monitor :=
  match m.schedule with
  | some ⟨period, next, .probing number⟩ =>
    { m.forget number with schedule := some ⟨period, next, .broken⟩ }
  | _ => m

/-- Drops the schedule, and its probe if one is in flight. -/
def abortSchedule (m : Monitor) : Monitor :=
  match m.schedule with
  | some ⟨period, next, .probing number⟩ =>
    { m.forget number with schedule := some ⟨period, next, .aborted⟩ }
  | some ⟨period, next, .idle⟩ => { m with schedule := some ⟨period, next, .aborted⟩ }
  | some ⟨period, next, .beyond⟩ => { m with schedule := some ⟨period, next, .aborted⟩ }
  | some ⟨period, next, .ticked⟩ => { m with schedule := some ⟨period, next, .aborted⟩ }
  | _ => m

def stop (m : Monitor) : Monitor := { m with stopped := true }

/-- Stops, and gives the schedule up to the shutdown. Says whether there was one to wait for. -/
def beginShutdown (m : Monitor) : Monitor × Bool :=
  ({ m.stop with holdsSchedule := false }, m.holdsSchedule)

/-- Whether the schedule has come to its end, or there is none. -/
def scheduleIsOver (m : Monitor) : Bool := m.schedule.all Schedule.isOver

/-- The time for a probe in flight ran out: the schedule is dropped with it. -/
def endShutdown (m : Monitor) (grace : Nat) : Monitor × Journal :=
  (m.abortSchedule, [.probeAborted m.target (.ofMillis grace)])

/-- How long a shutdown waits for a probe in flight if nothing else is said. -/
def defaultGrace : Nat := 5000

def isScheduled (m : Monitor) : Bool := m.holdsSchedule && !m.stopped

/-- The probe that the schedule waits for. -/
def scheduled? (m : Monitor) : Option Nat :=
  match m.schedule with
  | some ⟨_, _, .probing number⟩ => some number
  | _ => none

/-- A monitor gets one schedule at most. Whoever waits for a probe may drop it, but the probe of the
schedule belongs to the schedule; and time runs out for a schedule only once it was given up to a
shutdown. -/
def step (m : Monitor) (now : Nat) : MonitorEvent → Monitor × Journal
  | .read => (if m.state.isHealthy then m else (m.beginProbe now).1, [])
  | .check => ((m.beginProbe now).1, [])
  | .answered number r => m.endProbe number now r
  | .giveUp number => (if m.scheduled? = some number then m else m.dropProbe number, [])
  | .schedule c anchor period =>
    if m.schedule.isNone then m.scheduleFrom c anchor period else (m, [])
  | .takeTick => (m.takeTick now).getD (m, [])
  | .useTick => (m.useTick now).getD (m, [])
  | .breakDown => (m.breakSchedule, [])
  | .stop => (m.stop, [])
  | .drop => (m.stop, [])
  | .shutdown => (m.beginShutdown.1, [])
  | .expire grace =>
    if m.holdsSchedule || m.scheduleIsOver then (m, []) else m.endShutdown grace

/-- A run through events with their times, and what has happened in it, the latest first. -/
def run (m : Monitor) : List (Nat × MonitorEvent) → Monitor × Journal
  | [] => (m, [])
  | (now, e) :: es =>
    let (m, j) := m.step now e
    let (m, more) := m.run es
    (m, more ++ j)

def display (m : Monitor) : String := m.target.display m.state

def debugText (m : Monitor) : String :=
  "EndpointHealthMonitor \x7b address: " ++ m.target.address.text ++ ", healthy: " ++
    m.state.debugText ++ ", hostname: " ++ Text.quote m.target.hostname ++ ", health_uri: " ++
    m.target.uri.text ++ " \x7d"

end Monitor

end EndpointClient
