import EndpointClient.CommandLine.Help
import EndpointClient.CommandLine.Send
import EndpointClient.CommandLine.Serve
import EndpointClient.Rehearsal.ReportScript
import EndpointClient.Rehearsal.WireScript

/-!
# EndpointClient.Rehearsal.CommandScript

Whole runs of the tool and of the daemon, on a network and with files that are given.

* `ToolBench.run` is a run of the tool, `DaemonBench.run` one of the daemon, which is asked to end
  as soon as its monitors are there. It breaks down then if it cannot report.
-/

namespace EndpointClient.Rehearsal

open CommandLine

/-- What a program finds: its files by their paths, and a network. -/
structure Surroundings where
  found : String → FileContent
  network : Network

/-- A run that ends over a fault of the arguments. Help is written where it was asked for. -/
def faultRun (help : Option String → List String) (e : ArgumentFault) : ProgramRun :=
  match e with
  | .helpAsked command => ⟨(help command).map .text, e.exitCode⟩
  | _ => ⟨[], e.exitCode⟩

namespace ToolBench

def check (s : Surroundings) (o : ObservabilityConfig) (a : CheckArguments) : ProgramRun :=
  match MonitorKind.oneShot.prepare a.endpoint a.address with
  | .error _ => ⟨[], exitFailure⟩
  | .ok p =>
    let w : World := { network := s.network, engines := [.pinned a.address] }
    let (w, c) := w.beginProbeCall 0 p.target
    let w := w.await (.make (.start p w.now) 0 c)
    let shown := w.monitors.map fun m => OutputLine.text m.display
    ⟨OutputLine.ofJournal o w.journal ++ shown, CheckArguments.exitCode (w.stateOf 0)⟩

def finish (lines : List OutputLine) : Option SendOutcome → ProgramRun
  | some (.ok r) =>
    let (texts, complete) := responseLines r
    ⟨lines ++ texts.map .text, if complete.isOk then exitSuccess else exitFailure⟩
  | _ => ⟨lines, exitFailure⟩

/-- A run of `send`. Its fields are read before its configuration. -/
def send (s : Surroundings) (o : ObservabilityConfig) (a : SendArguments) : ProgramRun :=
  match a.request, a.connectorConfig s.found with
  | .ok r, .ok c =>
    let w : World := { network := s.network, engines := [.networked true] }
    let (w, outcome) := ConnectorBench.execute w (Connector.ofConfig c).pipeCapacity 0 r
    finish (OutputLine.ofJournal o w.journal) outcome
  | _, _ => ⟨[], exitFailure⟩

def run (s : Surroundings) (args : List String) : ProgramRun :=
  match ToolArguments.parse args with
  | .error e => faultRun ToolArguments.help e
  | .ok a =>
    match a.command with
    | .check c => check s a.observability c
    | .send c => send s a.observability c

end ToolBench

namespace DaemonBench

def serve (s : Surroundings) (a : DaemonArguments) (c : ClientConfig) : ProgramRun :=
  let o := c.observability
  match LifecycleBench.start s.network (openingJournal a c) c with
  | (w, some _) => ⟨OutputLine.ofJournal o w.journal, exitFailure⟩
  | (w, none) =>
    if (Report.start w.clock w.now (reportPeriod o)).isBroken then
      ⟨OutputLine.ofJournal o w.journal, exitBroken⟩
    else
      let w := (w.note [.signalReceived]).stopAll.note [.daemonStopped]
      ⟨OutputLine.ofJournal o w.journal, exitSuccess⟩

def run (s : Surroundings) (args : List String) : ProgramRun :=
  match DaemonArguments.parse args with
  | .error e => faultRun (fun _ => DaemonArguments.help) e
  | .ok a =>
    match ClientConfig.load (s.found a.config) with
    | .error _ => ⟨[], exitFailure⟩
    | .ok c => serve s a c

end DaemonBench

end EndpointClient.Rehearsal
