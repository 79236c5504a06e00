import EndpointClient.Observe.Metric

/-!
# EndpointClient.Proofs.Observe.Metric

What is found in the metrics after one of them was touched.

* `Metrics.get?_update`: the one that is touched changes, every other is found as before.
* `MetricValue.counted`, `MetricValue.sampled` and `MetricValue.gauged` are what a counter, a
  histogram and a gauge hold after a number of counts, some samples, and a last value.
  `get?_count`, `get?_sample` and `get?_set` take each of them one step further.
-/

namespace EndpointClient

namespace MetricValue

/-- What a counter holds after a number of counts. One that was never touched is not there. -/
def counted : Nat → Option MetricValue
  | 0 => none
  | n + 1 => some (.counter (n + 1))

/-- What a histogram holds after some samples. One that was never touched is not there. -/
def sampled : List Nat → Option MetricValue
  | [] => none
  | ns => some (.histogram ns)

/-- What a gauge holds after the last value that it was set to, if it ever was. -/
def gauged (last : Option Nat) : Option MetricValue := last.map .gauge

end MetricValue

namespace Metrics

open MetricValue

variable {m : Metrics} {key other : MetricKey} {n : Nat} {ns : List Nat}

theorem find?_updateEntries (key other : MetricKey) (f : Option MetricValue → MetricValue)
    (entries : List (MetricKey × MetricValue)) :
    ((updateEntries key f entries).find? (·.1 = other)).map (·.2) =
      if key = other then some (f ((entries.find? (·.1 = key)).map (·.2)))
      else (entries.find? (·.1 = other)).map (·.2) := by
  induction entries with
  | nil =>
    by_cases h : key = other
    · simp [updateEntries, h]
    · simp [updateEntries, h]
  | cons e rest ih =>
    obtain ⟨k, v⟩ := e
    unfold updateEntries
    by_cases hk : k = key
    · subst hk
      by_cases h : k = other <;> simp [h]
    · rw [if_neg hk]
      by_cases ho : k = other
      · subst ho
        simp [Ne.symm hk]
      · simpa [hk, ho] using ih

/-- The metric that is touched changes, every other is found as before. -/
theorem get?_update (m : Metrics) (key other : MetricKey) (f : Option MetricValue → MetricValue) :
    (m.update key f).get? other = if key = other then some (f (m.get? key)) else m.get? other :=
  find?_updateEntries key other f m.entries

theorem get?_count (h : m.get? key = counted n) : (m.count key).get? key = counted (n + 1) := by
  rw [count, get?_update, if_pos rfl, h]
  cases n <;> rfl

theorem get?_sample (h : m.get? key = sampled ns) (n : Nat) :
    (m.sample key n).get? key = sampled (ns ++ [n]) := by
  rw [sample, get?_update, if_pos rfl, h]
  cases ns <;> rfl

theorem get?_set (m : Metrics) (key : MetricKey) (n : Nat) :
    (m.set key n).get? key = gauged (some n) := by
  rw [set, get?_update, if_pos rfl]
  rfl

theorem get?_count_of_ne (h : key ≠ other) : (m.count key).get? other = m.get? other := by
  rw [count, get?_update, if_neg h]

theorem get?_sample_of_ne (h : key ≠ other) (n : Nat) :
    (m.sample key n).get? other = m.get? other := by
  rw [sample, get?_update, if_neg h]

theorem get?_set_of_ne (h : key ≠ other) (n : Nat) : (m.set key n).get? other = m.get? other := by
  rw [set, get?_update, if_neg h]

end Metrics

end EndpointClient
