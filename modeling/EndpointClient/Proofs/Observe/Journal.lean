import EndpointClient.Observe.Journal
import EndpointClient.Proofs.Observe.Metric

/-!
# EndpointClient.Proofs.Observe.Journal

The metrics and the log keep the books of a journal.

* `Journal.requests` and `Journal.probes` are the requests and the probes in a journal, the earliest
  first.
* `get?_requestsKey`, `get?_probesKey`: the counters are the numbers of requests and of probes.
  `get?_durationKey`: a histogram has a sample for each probe, in order. `get?_healthKey`: a gauge
  goes by the last probe.
* `filter_events_probe`: each probe has logged one event, and nothing else logs one of these.
-/

namespace EndpointClient

open MetricValue

def LogEvent.isOfProbe (e : LogEvent) : Bool :=
  e.message = "Checked endpoint health" ∨ e.message = "Failed to check endpoint health"

def SentRequest.isOf (mode outcome : String) (r : SentRequest) : Bool :=
  r.mode.name = mode ∧ r.outcomeName = outcome

/-- What a gauge takes of a state. -/
def HealthState.level (s : HealthState) : Nat := if s.isHealthy then 1 else 0

namespace DoneProbe

def isOf (hostname outcome : String) (p : DoneProbe) : Bool :=
  p.target.hostname = hostname ∧ p.result.state.text = outcome

def isAt (hostname address : String) (p : DoneProbe) : Bool :=
  p.target.hostname = hostname ∧ p.target.address.text = address

/-- What a histogram takes of a probe: its time in microseconds. -/
def sample (p : DoneProbe) : Nat := p.elapsed.nanos / 1000

def level (p : DoneProbe) : Nat := p.result.state.level

end DoneProbe

namespace Happening

variable {m : Metrics} {mode outcome hostname address : String}

def request? : Happening → Option SentRequest
  | .sent r => some r
  | _ => none

def probe? : Happening → Option DoneProbe
  | .probed p => some p
  | _ => none

/-! ## What one happening does to a metric -/

theorem measure_probed (p : DoneProbe) (m : Metrics) :
    (probed p).measure m =
      ((m.set (healthKey p.target.hostname p.target.address.text) p.level).sample
        (durationKey p.target.hostname p.target.address.text) p.sample).count
          (probesKey p.target.hostname p.result.state.text) := rfl

theorem get?_probesKey_measure (h : Happening) {n : Nat}
    (hm : m.get? (probesKey hostname outcome) = counted n) :
    (h.measure m).get? (probesKey hostname outcome) =
      counted (n + h.probe?.toList.countP (·.isOf hostname outcome)) := by
  cases h with
  | sent r => exact (Metrics.get?_count_of_ne (by simp [requestsKey, probesKey])).trans hm
  | probed p =>
    have hkey : probesKey p.target.hostname p.result.state.text = probesKey hostname outcome ↔
        p.isOf hostname outcome = true := by
      simp [probesKey, DoneProbe.isOf]
    have hbefore : ((m.set (healthKey p.target.hostname p.target.address.text) p.level).sample
        (durationKey p.target.hostname p.target.address.text) p.sample).get?
          (probesKey hostname outcome) = counted n := by
      rw [Metrics.get?_sample_of_ne (by simp [probesKey, durationKey]),
        Metrics.get?_set_of_ne (by simp [probesKey, healthKey]), hm]
    simp only [measure_probed, probe?, Option.toList_some, List.countP_singleton]
    by_cases hp : p.isOf hostname outcome = true
    · rw [if_pos hp, hkey.2 hp]
      exact Metrics.get?_count hbefore
    · rw [if_neg hp, Metrics.get?_count_of_ne (mt hkey.1 hp)]
      exact hbefore
  | _ => exact hm

theorem get?_durationKey_measure (h : Happening) {ns : List Nat}
    (hm : m.get? (durationKey hostname address) = sampled ns) :
    (h.measure m).get? (durationKey hostname address) =
      sampled (ns ++ (h.probe?.toList.filter (·.isAt hostname address)).map DoneProbe.sample) := by
  cases h with
  | sent r =>
    rw [measure, Metrics.get?_count_of_ne (by simp [requestsKey, durationKey]), hm]
    simp [probe?]
  | probed p =>
    have hkey : durationKey p.target.hostname p.target.address.text = durationKey hostname address ↔
        p.isAt hostname address = true := by
      simp [durationKey, DoneProbe.isAt, and_comm]
    have hbefore : (m.set (healthKey p.target.hostname p.target.address.text) p.level).get?
        (durationKey hostname address) = sampled ns := by
      rw [Metrics.get?_set_of_ne (by simp [durationKey, healthKey]), hm]
    rw [measure_probed, Metrics.get?_count_of_ne (by simp [probesKey, durationKey])]
    by_cases hp : p.isAt hostname address = true
    · rw [hkey.2 hp]
      simpa [probe?, hp] using Metrics.get?_sample hbefore p.sample
    · rw [Metrics.get?_sample_of_ne (mt hkey.1 hp), hbefore]
      simp [probe?, hp]
  | _ => simpa [measure, probe?] using hm

theorem get?_healthKey_measure (h : Happening) {last : Option Nat}
    (hm : m.get? (healthKey hostname address) = gauged last) :
    (h.measure m).get? (healthKey hostname address) =
      gauged (((h.probe?.toList.filter (·.isAt hostname address)).getLast?.map
        DoneProbe.level).or last) := by
  cases h with
  | sent r => exact (Metrics.get?_count_of_ne (by simp [requestsKey, healthKey])).trans hm
  | probed p =>
    have hkey : healthKey p.target.hostname p.target.address.text = healthKey hostname address ↔
        p.isAt hostname address = true := by
      simp [healthKey, DoneProbe.isAt, and_comm]
    rw [measure_probed, Metrics.get?_count_of_ne (by simp [probesKey, healthKey]),
      Metrics.get?_sample_of_ne (by simp [durationKey, healthKey])]
    by_cases hp : p.isAt hostname address = true
    · rw [hkey.2 hp]
      simpa [probe?, hp] using Metrics.get?_set m (healthKey hostname address) p.level
    · rw [Metrics.get?_set_of_ne (mt hkey.1 hp)]
      simpa [probe?, hp] using hm
  | _ => exact hm

/-! ## What one happening logs -/

theorem filter_log_probe (h : Happening) :
    [h.log].filter (·.isOfProbe) = h.probe?.toList.map fun p => (probed p).log := by
  cases h with
  | sent r =>
    have hlog : (sent r).log.isOfProbe = false := by
      simp only [log]
      split <;> simp [LogEvent.isOfProbe]
    simp [probe?, hlog]
  | probed p =>
    have hlog : (probed p).log.isOfProbe = true := by
      simp only [log]
      split <;> rfl
    simp [probe?, hlog]
  | _ => simp [probe?, log, LogEvent.isOfProbe]

end Happening

namespace Journal

def requests (j : Journal) : List SentRequest := j.reverse.filterMap Happening.request?

def probes (j : Journal) : List DoneProbe := j.reverse.filterMap Happening.probe?

def probesAt (j : Journal) (hostname address : String) : List DoneProbe :=
  j.probes.filter (·.isAt hostname address)

variable (j : Journal) (h : Happening) (mode outcome hostname address : String)

theorem probes_cons : probes (h :: j) = j.probes ++ h.probe?.toList := by
  rw [probes, List.reverse_cons, List.filterMap_append]
  cases h <;> rfl

theorem probes_append (later : Journal) : probes (later ++ j) = j.probes ++ later.probes := by
  simp [probes]

theorem requests_append (later : Journal) :
    requests (later ++ j) = j.requests ++ later.requests := by
  simp [requests]

theorem events_cons : events (h :: j) = j.events ++ [h.log] := by
  simp [events]

theorem get?_probesKey : j.metrics.get? (Happening.probesKey hostname outcome) =
    counted (j.probes.countP (·.isOf hostname outcome)) := by
  induction j with
  | nil => rfl
  | cons h j ih =>
    rw [probes_cons, List.countP_append]
    exact h.get?_probesKey_measure ih

theorem get?_durationKey : j.metrics.get? (Happening.durationKey hostname address) =
    sampled ((j.probesAt hostname address).map DoneProbe.sample) := by
  induction j with
  | nil => rfl
  | cons h j ih =>
    rw [probesAt, probes_cons, List.filter_append, List.map_append]
    exact h.get?_durationKey_measure ih

theorem get?_healthKey : j.metrics.get? (Happening.healthKey hostname address) =
    gauged ((j.probesAt hostname address).getLast?.map DoneProbe.level) := by
  induction j with
  | nil => rfl
  | cons h j ih =>
    rw [probesAt, probes_cons, List.filter_append, List.getLast?_append, Option.map_or]
    exact h.get?_healthKey_measure ih

/-- Each probe has logged one event, and nothing else logs one of these. -/
theorem filter_events_probe :
    j.events.filter (·.isOfProbe) = j.probes.map fun p => (Happening.probed p).log := by
  induction j with
  | nil => rfl
  | cons h j ih =>
    rw [events_cons, probes_cons, List.filter_append, List.map_append, ih, h.filter_log_probe]

end Journal

end EndpointClient
