import EndpointClient.Health.Monitor

/-!
# EndpointClient.Health.Report

Summaries of the health of all monitors, a fixed period apart.

* A summary reads the monitors one after another. One that is unhealthy is probed first, and its
  fresh state counts.
* `Report.advance` is the next step, `none` while a tick or a probe is awaited. No summary is
  skipped after a slow one, and no two overlap.
* `Report.resume` is the rest of a read that waited, in one go with the end of its probe.
* `Report.stop` gives up the summary under way, and with it the probe that it waits for.
* Reporting whose first tick is beyond the clock breaks down at its start.

All times are milliseconds on one clock.
-/

namespace EndpointClient

/-- What the reporting does: it waits for its next tick, reads a monitor, waits for the probe of a
monitor, or has ended, in good order or not. Of a summary under way it knows how many monitors were
healthy. -/
inductive ReportPhase where
  | waiting
  | reading (index healthy : Nat)
  | probing (index healthy number : Nat)
  | stopped
  | broken
  deriving DecidableEq, Repr

/-- The reporting: its period, the next tick not yet taken, and what it does. -/
structure Report where
  period : Nat
  next : Nat
  phase : ReportPhase
  deriving DecidableEq, Repr

namespace Report

/-- Reporting that begins now. Its first summary comes after one period. -/
def start (c : Clock) (now period : Nat) : Report :=
  ⟨period, now + period, if c.reaches (now + period) then .waiting else .broken⟩

def isBroken (r : Report) : Bool := r.phase = .broken

/-- Goes on to the next monitor after one was read in its state. -/
def afterRead (r : Report) (index healthy : Nat) (m : Monitor) : Report × Journal :=
  -- the count has 31 bits in the daemon, more than any list of monitors fills
  ({ r with phase := .reading (index + 1) (healthy + if m.state.isHealthy then 1 else 0) },
    [.seen m.target m.state])

def advance (r : Report) (now : Nat) (ms : List Monitor) : Option (Report × List Monitor × Journal) :=
  match r.phase with
  | .waiting =>
    if r.next ≤ now then some ({ r with next := r.next + r.period, phase := .reading 0 0 }, ms, [])
    else none
  | .reading index healthy =>
    match ms[index]? with
    | none => some ({ r with phase := .waiting }, ms, [.summarized healthy ms.length])
    | some m =>
      if m.state.isHealthy then
        let (r, j) := r.afterRead index healthy m
        some (r, ms, j)
      else
        let (m, number) := m.beginProbe now
        some ({ r with phase := .probing index healthy number }, ms.set index m, [])
  | .probing index healthy number =>
    match ms[index]? with
    | none => none
    | some m =>
      if m.isInFlight number then none
      else
        let (r, j) := r.afterRead index healthy m
        some (r, ms, j)
  | .stopped => none
  | .broken => none

/-- The probe that the reporting waits for ends, and the monitor is read in what it stores. -/
def resume (r : Report) (now : Nat) (result : ProbeResult) (ms : List Monitor) :
    Option (Report × List Monitor × Journal) :=
  match r.phase with
  | .probing index healthy number =>
    (ms[index]?).map fun m =>
      let (m, j) := m.endProbe number now result
      let (r, seen) := r.afterRead index healthy m
      (r, ms.set index m, seen ++ j)
  | _ => none

def stop (r : Report) (ms : List Monitor) : Report × List Monitor :=
  match r.phase with
  | .probing index _ number =>
    ({ r with phase := .stopped }, ms.modify index (Monitor.dropProbe · number))
  | _ => ({ r with phase := .stopped }, ms)

end Report

end EndpointClient
