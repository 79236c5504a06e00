import EndpointClient.CommandLine.Daemon
import EndpointClient.Config.Basic
import EndpointClient.Net.Address
import EndpointClient.Observe.Journal

/-!
# EndpointClient.CommandLine.Serve

What the daemon does with its configuration before and beside its monitors: what it logs of itself,
where its metrics are served, and how often it reports.
-/

namespace EndpointClient.CommandLine

/-- Whether a program can listen at an address wherever it runs: that of the host itself, or all. -/
def isOwnAddress : IpAddress → Bool
  | .v4 a b c d => a == 127 || (a == 0 && b == 0 && c == 0 && d == 0)
  | .v6 gs => gs.toList == [0, 0, 0, 0, 0, 0, 0, 0] || gs.toList == [0, 0, 0, 0, 0, 0, 0, 1]

/-- The reason why a program cannot listen at an address of another host. -/
def foreignAddressText : String :=
  "failed to create HTTP listener: Cannot assign requested address (os error 99)"

def metricsJournal (o : ObservabilityConfig) : Journal :=
  if !o.metricsEnabled then []
  else
    match SocketAddress.parse? o.metricsAddress with
    | none => [.metricsAddressRefused o.metricsAddress]
    | some a =>
      [if isOwnAddress a.ip then .metricsServed a else .metricsFailed a foreignAddressText]

def openingJournal (a : DaemonArguments) (c : ClientConfig) : Journal :=
  metricsJournal c.observability ++ [.daemonStarted a.config c.endpoints.length]

/-- The milliseconds between two summaries: a second at least. -/
def reportPeriod (o : ObservabilityConfig) : Nat := max o.reportIntervalSecs 1 * 1000

end EndpointClient.CommandLine
