/-!
# EndpointClient.Observe.Metric

Metrics: counters, gauges and histograms, each known by its name and its labels.

* `Metrics.count`, `Metrics.set` and `Metrics.sample` record; `Metrics.get?` looks one up.
* `Metrics.sorted` are the metrics in the order of their names and labels.
-/

namespace EndpointClient

structure MetricKey where
  name : String
  labels : List (String × String)
  deriving DecidableEq, Repr

/-- What a metric holds: a count, the last value, or the samples in order. -/
inductive MetricValue where
  | counter (n : Nat)
  | gauge (n : Nat)
  | histogram (samples : List Nat)
  deriving DecidableEq, Repr

/-- The metrics recorded so far, each key once, in the order in which they were first touched. -/
structure Metrics where
  entries : List (MetricKey × MetricValue) := []
  deriving Repr

namespace Metrics

/-- Changes the entry of a key, or makes one at the end. -/
def updateEntries (key : MetricKey) (f : Option MetricValue → MetricValue) :
    List (MetricKey × MetricValue) → List (MetricKey × MetricValue)
  | [] => [(key, f none)]
  | (k, v) :: rest => if k = key then (k, f (some v)) :: rest else (k, v) :: updateEntries key f rest

def update (m : Metrics) (key : MetricKey) (f : Option MetricValue → MetricValue) : Metrics :=
  ⟨updateEntries key f m.entries⟩

def get? (m : Metrics) (key : MetricKey) : Option MetricValue :=
  (m.entries.find? (·.1 = key)).map (·.2)

def count (m : Metrics) (key : MetricKey) : Metrics :=
  m.update key fun
    | some (.counter n) => .counter (n + 1)
    | _ => .counter 1

def set (m : Metrics) (key : MetricKey) (n : Nat) : Metrics := m.update key fun _ => .gauge n

def sample (m : Metrics) (key : MetricKey) (n : Nat) : Metrics :=
  m.update key fun
    | some (.histogram ns) => .histogram (ns ++ [n])
    | _ => .histogram [n]

/-- Whether labels come before others: the first that differs decides, and fewer come first. -/
def labelsBefore : List (String × String) → List (String × String) → Bool
  | _, [] => false
  | [], _ :: _ => true
  | (k, v) :: r, (k', v') :: r' =>
    if k = k' then
      if v = v' then labelsBefore r r' else decide (v < v')
    else decide (k < k')

/-- Whether a key comes before another: by name, then by labels. -/
def keyBefore (a b : MetricKey) : Bool :=
  if a.name = b.name then labelsBefore a.labels b.labels else decide (a.name < b.name)

/-- The metrics in the order of their keys. -/
def sorted (m : Metrics) : List (MetricKey × MetricValue) :=
  m.entries.mergeSort fun a b => !keyBefore b.1 a.1

end Metrics

end EndpointClient
