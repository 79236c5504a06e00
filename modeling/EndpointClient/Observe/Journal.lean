import EndpointClient.Connector.Error
import EndpointClient.Health.Probe
import EndpointClient.Observe.Log
import EndpointClient.Observe.Metric

/-!
# EndpointClient.Observe.Journal

What happens, as it is logged and counted.

* `Happening.log` is the one event that a happening logs.
* `Happening.measure` is what it changes in the metrics.
* `Journal.events` and `Journal.metrics` are the log and the metrics of all that has happened.
-/

namespace EndpointClient

/-- How a request was sent: the caller waits for it, or is called back. -/
inductive SendMode where
  | sync
  | async
  deriving DecidableEq, Repr

def SendMode.name : SendMode → String
  | .sync => "sync"
  | .async => "async"

/-- A request that was carried out: its mode, what was asked, what came of it and after how long. -/
structure SentRequest where
  mode : SendMode
  method : Http.Method
  uri : Http.Uri
  outcome : Except ConnectorError Http.StatusCode
  elapsed : Duration

def SentRequest.outcomeName (r : SentRequest) : String :=
  match r.outcome with
  | .ok _ => "ok"
  | .error e => e.kind

/-- A probe that was carried out: its target, what came of it and after how long. -/
structure DoneProbe where
  target : ProbeTarget
  result : ProbeResult
  elapsed : Duration

def version : String := "0.1.0"

/-- Something that is logged, and counted if it is a request or a probe. -/
inductive Happening where
  | sent (r : SentRequest)
  | probed (p : DoneProbe)
  | scheduleStarted (target : ProbeTarget) (interval : Duration)
  | scheduleStopped (target : ProbeTarget)
  | probeAborted (target : ProbeTarget) (grace : Duration)
  | seen (target : ProbeTarget) (state : HealthState)
  | summarized (healthy total : Nat)
  | monitorStarted (endpoint : String) (target : ProbeTarget) (state : HealthState)
      (scheduled : Bool)
  | monitorsStopped (count : Nat)
  | hostResolved (host : String) (address : IpAddress)
  | daemonStarted (config : String) (endpoints : Nat)
  | metricsServed (address : SocketAddress)
  | metricsFailed (address : SocketAddress) (reason : String)
  | metricsAddressRefused (text : String)
  | signalReceived
  | daemonStopped

namespace Happening

def targetFields (t : ProbeTarget) : List (String × LogValue) :=
  [("uri", .text t.uri.text), ("address", .text t.address.text)]

def log : Happening → LogEvent
  | .sent r =>
    let asked := [("method", .text r.method.text), ("uri", .text r.uri.text),
      ("mode", LogValue.name r.mode.name)]
    let took := [("elapsed_ms", LogValue.count r.elapsed.millis)]
    match r.outcome with
    | .ok s => ⟨.debug, "Request completed", asked ++ ("status", .count s.code) :: took⟩
    | .error e => ⟨.warn, "Request failed", asked ++ ("error", .text e.message) :: took⟩
  | .probed p =>
    let took := [("elapsed_ms", LogValue.count p.elapsed.millis)]
    match p.result with
    | .ok s =>
      ⟨.info, "Checked endpoint health", targetFields p.target ++ ("status", .count s.code) :: took⟩
    | .error e =>
      ⟨.warn, "Failed to check endpoint health",
        targetFields p.target ++ ("error", .text e.message) :: took⟩
  | .scheduleStarted t i =>
    ⟨.debug, "Health schedule started",
      targetFields t ++ [("interval_secs", .count (i.millis / 1000))]⟩
  | .scheduleStopped t => ⟨.debug, "Health schedule stopped", targetFields t⟩
  | .probeAborted t g =>
    ⟨.warn, "Probe still running at shutdown, aborted",
      targetFields t ++ [("grace_ms", .count g.millis)]⟩
  | .seen t s => ⟨.debug, "Endpoint status", [("monitor", .text (t.display s))]⟩
  | .summarized healthy total =>
    ⟨.info, "Health summary", [("healthy", .count healthy), ("total", .count total)]⟩
  | .monitorStarted endpoint t s scheduled =>
    ⟨.info, "Monitor started",
      [("endpoint", .text endpoint), ("hostname", .text t.hostname),
        ("address", .text t.address.text), ("state", .text s.text), ("scheduled", .flag scheduled)]⟩
  | .monitorsStopped n => ⟨.info, "Monitors stopped", [("count", .count n)]⟩
  | .hostResolved host a =>
    ⟨.trace, "Resolving pinned host", [("host", .text host), ("address", .text a.text)]⟩
  | .daemonStarted config n =>
    ⟨.info, "resilient-http starting",
      [("version", .name version), ("config", .text config), ("endpoints", .count n)]⟩
  | .metricsServed a => ⟨.info, "Metrics exporter listening", [("address", .text a.text)]⟩
  | .metricsFailed a reason =>
    ⟨.error, "Failed to install metrics exporter",
      [("address", .text a.text), ("error", .text reason)]⟩
  | .metricsAddressRefused t =>
    ⟨.error, "Failed to parse metrics address", [("metrics_address", .text t)]⟩
  | .signalReceived => ⟨.info, "Shutdown signal received", []⟩
  | .daemonStopped => ⟨.info, "Shutdown complete", []⟩

/-- The counter of requests of a mode and an outcome. -/
def requestsKey (mode outcome : String) : MetricKey :=
  ⟨"connector_requests_total", [("mode", mode), ("outcome", outcome)]⟩

/-- The gauge that is 1 or 0 after the last probe of an address. -/
def healthKey (hostname address : String) : MetricKey :=
  ⟨"endpoint_health", [("address", address), ("hostname", hostname)]⟩

/-- The histogram of the times that probes of an address took, in microseconds. -/
def durationKey (hostname address : String) : MetricKey :=
  ⟨"health_probe_duration_seconds", [("address", address), ("hostname", hostname)]⟩

def probesKey (hostname outcome : String) : MetricKey :=
  ⟨"health_probes_total", [("hostname", hostname), ("outcome", outcome)]⟩

def measure (h : Happening) (m : Metrics) : Metrics :=
  match h with
  | .sent r => m.count (requestsKey r.mode.name r.outcomeName)
  | .probed p =>
    let s := p.result.state
    let host := p.target.hostname
    let address := p.target.address.text
    ((m.set (healthKey host address) (if s.isHealthy then 1 else 0)).sample
      (durationKey host address) (p.elapsed.nanos / 1000)).count (probesKey host s.text)
  | _ => m

end Happening

/-- All that has happened, the latest first. -/
abbrev Journal := List Happening

namespace Journal

/-- The log events, the earliest first. -/
def events (j : Journal) : List LogEvent := j.reverse.map Happening.log

def metrics (j : Journal) : Metrics := j.foldr Happening.measure {}

end Journal

end EndpointClient
