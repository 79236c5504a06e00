import EndpointClient.CommandLine.Help
import EndpointClient.CommandLine.Send
import EndpointClient.CommandLine.Serve
import EndpointClient.Connector.Traffic
import EndpointClient.Engine.Link
import EndpointClient.Health.Report
import EndpointClient.Health.Shutdown
import EndpointClient.Health.Startup
import EndpointClient.Http.RequestBytes
import EndpointClient.Net.PinnedResolver
import Std.Async.DNS
import Std.Async.Signal
import Std.Async.TCP
import Std.Async.Timer

/-!
# EndpointClient.Main

The two programs: the daemon, under its own name, and the tool, under any other. Sockets, the clock,
signals, files and the terminal are here; what they mean is decided elsewhere.

A link is a plain TCP connection, so only targets with the scheme `http` can be reached. Each
request has a connection of its own. Metrics are counted, but not served.
-/

open Std.Async
open EndpointClient EndpointClient.Http EndpointClient.CommandLine

namespace EndpointClient.Main

/-! ## Links -/

def socketAddress (a : IpAddress) (port : UInt16) : Std.Net.SocketAddress :=
  match a with
  | .v4 a b c d => .v4 ⟨⟨#v[a, b, c, d]⟩, port⟩
  | .v6 gs => .v6 ⟨⟨gs⟩, port⟩

def foundAddress : Std.Net.IPAddr → IpAddress
  | .v4 a => .v4 a.octets[0] a.octets[1] a.octets[2] a.octets[3]
  | .v6 a => .v6 a.segments

def addressOf (pinned : Option PinnedResolver) (u : Uri) : Async (Option IpAddress) := do
  let host := (u.host?.getD []).filter fun c => c != '[' && c != ']'
  match lookupName? u, pinned with
  | none, _ => return IpAddress.parse? (String.ofList host)
  | some _, some p => return some p.address
  | some name, none => return (← DNS.getAddrInfo name "")[0]?.map foundAddress

def dial (socket : TCP.Socket.Client) (pinned : Option PinnedResolver) (u : Uri) :
    Async LinkEvent := do
  try
    if u.scheme != some "http".toList then return .refused
    match ← addressOf pinned u with
    | none => return .refused
    | some a =>
      socket.connect (socketAddress a (u.port?.getD u.schemePort).toUInt16)
      return .connected
  catch _ => return .refused

/-- Waits for bytes from the far side. -/
def receive (socket : TCP.Socket.Client) : Async LinkEvent := do
  try
    match ← socket.recv? 65536 with
    | some bs => return .arrived bs.toList
    | none => return .closed
  catch _ => return .broken

/-- Waits for an event, but not beyond a limit of time. -/
def within (limit : Option TimeLimit) (wait : Async LinkEvent) : Async (Option LinkEvent) := do
  match limit with
  | none => return some (← wait)
  | some l =>
    let left := l.ends - (← IO.monoMsNow)
    let span : Std.Time.Millisecond.Offset := .ofNat left
    Async.race (some <$> wait) (do sleep span; return none)

partial def listen (socket : TCP.Socket.Client) (call : LinkCall) : Async LinkResult := do
  match ← within call.limit (receive socket), call.limit with
  | some e, _ =>
    match call.take e [] with
    | .goesOn call => listen socket call
    | .ended r => return r
  | none, some l => return .error (.timeout l.span)
  | none, none => return .error LinkCall.brokenLink

partial def readOn (socket : TCP.Socket.Client) (a : LinkAnswer) : Async LinkAnswer := do
  match a.body.finish with
  | .pending =>
    let e ← receive socket
    readOn socket { a with later := a.later ++ [(0, e)] }
  | _ => return a

/-- Sends a request on a link that is there, and waits for the response. -/
def converse (socket : TCP.Socket.Client) (call : LinkCall) (r : EngineRequest) (size : BodySize)
    (body : Bytes) : Async LinkResult := do
  let head := RequestHead.of r.method r.uri r.headers size false
  try
    socket.send (ByteArray.mk (head.bytes ++ head.framing.encode body).toArray)
    listen socket call
  catch _ => return .error LinkCall.brokenLink

/-- A call of an engine. The body of the response is read if the caller looks at it. -/
def exchange (pinned : Option PinnedResolver) (isRead : Bool) (r : EngineRequest) (size : BodySize)
    (body : Bytes) : Async (Except EngineError Response) := do
  let call := LinkCall.start r (← IO.monoMsNow)
  if (Origin.of? r.method r.uri).isNone then return .error LinkCall.noTarget
  let socket ← TCP.Socket.Client.mk
  let result ← match ← within call.limit (dial socket pinned r.uri), call.limit with
    | some e, _ =>
      match call.take e [] with
      | .goesOn call => converse socket call r size body
      | .ended result => pure result
    | none, some l => pure (.error (.timeout l.span))
    | none, none => pure (.error LinkCall.noLink)
  match result with
  | .error e => return .error e
  | .ok a =>
    let a ← if isRead then readOn socket a else pure a
    return .ok a.response

def probe (t : ProbeTarget) : IO ProbeResult := do
  let r ← (exchange (some ⟨t.address⟩) false t.request .nothing []).block
  return r.map (·.status)

/-! ## The terminal and files -/

def write (lines : List OutputLine) : IO Unit := do
  for line in lines do
    match line with
    | .event e => IO.println e.line
    | .text s => IO.println s
  (← IO.getStdout).flush

def emit (o : ObservabilityConfig) (j : Journal) : IO Unit := write (OutputLine.ofJournal o j)

def fail (why : String) : IO UInt32 := do
  IO.eprintln ("Error: " ++ why)
  return exitFailure.toUInt32

def failArguments (help : Option String → List String) (e : ArgumentFault) : IO UInt32 := do
  match e with
  | .helpAsked command => write ((help command).map .text)
  | _ => IO.eprintln "error: the arguments cannot be used, try --help"
  return e.exitCode.toUInt32

def found (path : String) : IO FileContent := do
  try return .bytes (← IO.FS.readBinFile path).toList
  catch _ => return .missing

/-! ## The tool -/

/-- Lets the caller's side of a request go on until it has to wait. -/
partial def advance (d : Dispatch) (j : Journal) : IO (Dispatch × Journal) := do
  match d.advance (← IO.monoMsNow) with
  | some (d, more) => advance d (more ++ j)
  | none => return (d, j)

/-- Lets both sides of a request go on until the engine has all of its body. -/
partial def gather (d : Dispatch) (body : Bytes) (j : Journal) : IO (Dispatch × Bytes × Journal) := do
  let (d, j) ← advance d j
  match d.pull with
  | (d, .chunk bs) => gather d (body ++ bs) j
  | (d, _) => return (d, body, j)

def execute (o : ObservabilityConfig) (c : Connector) (r : ClientRequest) : IO SendOutcome := do
  let (d, j) ← advance (c.dispatch r) []
  let d := d.ask
  let size := if r.hasEntity then BodySize.unknown else .nothing
  let (d, body, j) ← match (RequestFraming.of r.method r.headers size false).1 with
    | .sized 0 => pure (d.dropBody, [], j)
    | _ => gather d [] j
  let result ← (exchange none true r.engineRequest size body).block
  let (d, more) := d.finishCall (← IO.monoMsNow) (.returned result)
  let (d, j) ← advance d (more ++ j)
  emit o j
  match d.ended with
  | some (.completed outcome) => return outcome
  | _ => return .error .interrupted

def check (o : ObservabilityConfig) (a : CheckArguments) : IO UInt32 := do
  match MonitorKind.oneShot.prepare a.endpoint a.address with
  | .error e => fail e.message
  | .ok p =>
    let draft := MonitorDraft.start p (← IO.monoMsNow)
    let r ← probe p.target
    let (m, j) := draft.monitor.endProbe 0 (← IO.monoMsNow) r
    emit o j
    write [.text m.display]
    return (CheckArguments.exitCode m.state).toUInt32

def send (o : ObservabilityConfig) (a : SendArguments) : IO UInt32 := do
  match a.request with
  | .error e => fail e.message
  | .ok r =>
    let file ← found (a.config.getD "")
    match a.connectorConfig fun _ => file with
    | .error _ => fail "the configuration cannot be used"
    | .ok c =>
      match ← execute o (.ofConfig c) r with
      | .error e => fail e.message
      | .ok response =>
        let (lines, complete) := responseLines response
        write (lines.map .text)
        match complete with
        | .ok () => return exitSuccess.toUInt32
        | .error e => fail e.message

def tool (args : List String) : IO UInt32 := do
  match ToolArguments.parse args with
  | .error e => failArguments ToolArguments.help e
  | .ok a =>
    match a.command with
    | .check c => check a.observability c
    | .send c => send a.observability c

/-! ## The daemon -/

/-- A probe in flight: the monitor it is for, its number, and its result to come. -/
structure Flight where
  monitor : Nat
  number : Nat
  result : Task (Except IO.Error ProbeResult)

/-- The daemon at work. It reports once all its monitors are there. -/
structure Watch where
  observability : ObservabilityConfig
  monitors : List Monitor := []
  report : Option Report := none
  flights : List Flight := []

/-- The clock that `IO.monoMsNow` reads, from when it began. -/
def clock : Clock := .ofAge 0

namespace Watch

/-- How many milliseconds pass between two looks at the clock. -/
def pause : UInt32 := 10

/-- Begins a probe of a monitor in a task of its own. -/
def launch (w : Watch) (index number : Nat) : IO Watch := do
  match w.monitors[index]? with
  | none => return w
  | some m =>
    let result ← IO.asTask (probe m.target) Task.Priority.dedicated
    return { w with flights := ⟨index, number, result⟩ :: w.flights }

def awaiting? (w : Watch) (f : Flight) : Option Report :=
  w.report.filter fun r =>
    match r.phase with
    | .probing index _ number => index = f.monitor ∧ number = f.number
    | _ => false

/-- The probe of a flight ends. A summary that waited for it goes on with it. -/
def arrive (w : Watch) (f : Flight) (result : ProbeResult) : IO Watch := do
  let now ← IO.monoMsNow
  match w.awaiting? f, w.monitors[f.monitor]? with
  | some r, _ =>
    match r.resume now result w.monitors with
    | none => return w
    | some (r, ms, j) =>
      emit w.observability j
      return { w with report := some r, monitors := ms }
  | none, none => return w
  | none, some m =>
    let (m, j) := m.endProbe f.number now result
    emit w.observability j
    return { w with monitors := w.monitors.set f.monitor m }

/-- What came of a task with a probe. -/
def resultOf (t : Task (Except IO.Error ProbeResult)) : ProbeResult :=
  match t.get with
  | .ok r => r
  | .error e => .error (.transport (toString e))

def land (w : Watch) : IO Watch := do
  let mut landed := w
  let mut flying := []
  for f in w.flights do
    if ← IO.hasFinished f.result then
      landed ← landed.arrive f (resultOf f.result)
    else flying := flying ++ [f]
  return { landed with flights := flying }

def tick (w : Watch) : IO Watch := do
  let mut w := w
  for index in List.range w.monitors.length do
    match w.monitors[index]? with
    | none => pure ()
    | some m =>
      match m.pollSchedule (← IO.monoMsNow) with
      | none => pure ()
      | some (m, j) =>
        emit w.observability j
        w := { w with monitors := w.monitors.set index m }
        match m.schedule with
        | some ⟨_, _, .probing number⟩ => w ← w.launch index number
        | _ => pure ()
  return w

/-- Lets the schedules and the probes in flight go on until a probe of its own has come to a
result. -/
partial def await (w : Watch) (t : Task (Except IO.Error ProbeResult)) :
    IO (Watch × ProbeResult) := do
  let w ← (← w.land).tick
  if ← IO.hasFinished t then return (w, resultOf t)
  IO.sleep pause
  await w t

/-- Makes the monitors of a configuration one after another. The schedules of those that are made
go on meanwhile. -/
partial def startAll (w : Watch) (s : Startup) : IO (Watch × Startup) := do
  match s.advance clock (← IO.monoMsNow) w.monitors with
  | none => return (w, s)
  | some (s, ms, j) =>
    emit w.observability j
    let w := { w with monitors := ms }
    match s.current with
    | none => startAll w s
    | some (_, d) =>
      let (w, r) ← w.await (← IO.asTask (probe d.monitor.target) Task.Priority.dedicated)
      let (s, j) := s.endProbe (← IO.monoMsNow) r
      emit w.observability j
      startAll w s

/-- Lets the reporting go on until it has to wait. -/
partial def summarize (w : Watch) : IO Watch := do
  match w.report with
  | none => return w
  | some r =>
    match r.advance (← IO.monoMsNow) w.monitors with
    | none => return w
    | some (r, ms, j) =>
      emit w.observability j
      let w := { w with report := some r, monitors := ms }
      match r.phase with
      | .probing index _ number => w.launch index number
      | _ => summarize w

/-- Watches the monitors until `asked` says that it is enough. -/
partial def run (w : Watch) (asked : IO Bool) : IO Watch := do
  if ← asked then
    match w.report with
    | none => return w
    | some r =>
      let (r, ms) := r.stop w.monitors
      return { w with report := some r, monitors := ms }
  let w ← (← (← w.land).tick).summarize
  IO.sleep pause
  run w asked

/-- Carries shutdowns on until they have to wait. -/
partial def carryOn (w : Watch) (jobs : List MonitorShutdown) :
    IO (Watch × List MonitorShutdown) := do
  match MonitorShutdown.advanceFirst (← IO.monoMsNow) jobs w.monitors with
  | none => return (w, jobs)
  | some (jobs, ms, j) =>
    emit w.observability j
    carryOn { w with monitors := ms } jobs

/-- Waits for shutdowns to end. All begin before any schedule goes on. -/
partial def settle (w : Watch) (jobs : List MonitorShutdown) : IO Watch := do
  let (w, jobs) ← w.carryOn jobs
  let (w, jobs) ← (← (← w.land).tick).carryOn jobs
  if jobs.all MonitorShutdown.isOver then return w
  IO.sleep pause
  settle w jobs

end Watch

def serve (a : DaemonArguments) (c : ClientConfig) : IO UInt32 := do
  let o := c.observability
  emit o (openingJournal a c)
  let (w, s) ← Watch.startAll { observability := o } (.start c)
  match s.failed with
  | some e => fail e.message
  | none =>
    let interrupted ← (← Signal.Waiter.mk .sigint false).wait
    let terminated ← (← Signal.Waiter.mk .sigterm false).wait
    let asked : IO Bool := do return (← IO.hasFinished interrupted) || (← IO.hasFinished terminated)
    let r := Report.start clock (← IO.monoMsNow) (reportPeriod o)
    if r.isBroken then
      IO.eprintln "the interval of the summaries is too long for the clock"
      return exitBroken.toUInt32
    let w ← Watch.run { w with report := some r } asked
    emit o [.signalReceived]
    let w ← w.settle (MonitorShutdown.ofAll w.monitors)
    emit o [.daemonStopped, .monitorsStopped w.monitors.length]
    return exitSuccess.toUInt32

def daemon (args : List String) : IO UInt32 := do
  match DaemonArguments.parse args with
  | .error e => failArguments (fun _ => DaemonArguments.help) e
  | .ok a =>
    match ClientConfig.load (← found a.config) with
    | .error _ => fail "the configuration cannot be used"
    | .ok c => serve a c

end EndpointClient.Main

def main (args : List String) : IO UInt32 := do
  if (← IO.appPath).fileName = some DaemonArguments.daemonName then
    EndpointClient.Main.daemon args
  else EndpointClient.Main.tool args
