import EndpointClient.CommandLine.Options
import EndpointClient.Http.Method
import EndpointClient.Http.Uri
import EndpointClient.Net.Address
import EndpointClient.Text.Decimal
import EndpointClient.Word

/-!
# EndpointClient.CommandLine.Tool

The arguments of the tool: `check` probes one address of a host once, `send` sends one request.

* `ToolArguments.parse` reads them, with a value for each option that has a default.
-/

namespace EndpointClient.CommandLine

/-- An integer that 64 bits with a sign can hold. -/
def readInt64? (s : String) : Option Int :=
  (Text.readInt? s.toList).filter Word.holdsSigned

def readPort? (s : String) : Option UInt16 :=
  ((readInt64? s).filter fun n => 0 ≤ n && n < 65536).map fun n => n.toNat.toUInt16

/-- A number of bytes, without a minus sign. -/
def readSize? (s : String) : Option Nat :=
  if s.toList.head? == some '-' then none
  else ((Text.readInt? s.toList).map Int.toNat).filter Word.holds

def readTarget? (s : String) : Option Http.Uri := (Http.Uri.parse s).toOption

structure CheckArguments where
  host : String
  address : IpAddress
  port : UInt16
  path : String
  scheme : String
  timeoutMs : Int

structure SendArguments where
  url : Http.Uri
  method : Http.Method
  headers : List String
  data : Option String
  timeoutMs : Option Int
  config : Option String
  pipeBuffer : Option Nat

inductive ToolCommand where
  | check (arguments : CheckArguments)
  | send (arguments : SendArguments)

structure ToolArguments where
  logLevel : String
  command : ToolCommand

structure CheckDraft where
  host : Option String := none
  address : Option IpAddress := none
  port : Option UInt16 := none
  path : Option String := none
  scheme : Option String := none
  timeoutMs : Option Int := none

namespace CheckDraft

def grammar : Grammar CheckDraft where
  options :=
    [{ OptionRule.of "host" some (·.host)
          fun (d : CheckDraft) v => { d with host := some v } with required := true },
      { OptionRule.of "address" IpAddress.parse? (·.address)
          fun (d : CheckDraft) v => { d with address := some v } with required := true },
      { OptionRule.of "port" readPort? (·.port)
          fun (d : CheckDraft) v => { d with port := some v } with byDefault := "443" },
      { OptionRule.of "path" some (·.path)
          fun (d : CheckDraft) v => { d with path := some v } with byDefault := "/health" },
      { OptionRule.of "scheme" some (·.scheme)
          fun (d : CheckDraft) v => { d with scheme := some v } with byDefault := "https" },
      { OptionRule.of "timeout-ms" readInt64? (·.timeoutMs)
          fun (d : CheckDraft) v => { d with timeoutMs := some v } with
        negatives := true, byDefault := "-1",
        about := "Read timeout in milliseconds; negative disables it" }]

def complete (d : CheckDraft) : Except ArgumentFault CheckArguments :=
  match d.host, d.address with
  | some host, some address =>
    .ok ⟨host, address, d.port.getD 443, d.path.getD "/health", d.scheme.getD "https",
      d.timeoutMs.getD (-1)⟩
  | _, _ => .error .missingOption

end CheckDraft

structure SendDraft where
  url : Option Http.Uri := none
  method : Option Http.Method := none
  headers : List String := []
  data : Option String := none
  timeoutMs : Option Int := none
  config : Option String := none
  pipeBuffer : Option Nat := none

/-- The option that names a file. A file without a name is no value at all. -/
def OptionRule.file {δ : Type} (long : String) (get : δ → Option String) (set : δ → String → δ) :
    OptionRule δ where
  long := long
  given d := (get d).isSome
  store d v := if v.isEmpty then .error .missingValue else .ok (set d v)

namespace SendDraft

def grammar : Grammar SendDraft where
  options :=
    [{ OptionRule.of "url" readTarget? (·.url)
          fun (d : SendDraft) v => { d with url := some v } with required := true },
      { OptionRule.of "method" Http.Method.ofString? (·.method)
          fun (d : SendDraft) v => { d with method := some v } with
        short := some 'X', byDefault := "GET" },
      { long := "header", short := some 'H', valueName := "HEADERS", repeatable := true,
        about := "Header as \x60name: value\x60, repeatable", given := fun _ => false,
        store := fun d v => .ok { d with headers := d.headers ++ [v] } },
      { OptionRule.of "data" some (·.data)
          fun (d : SendDraft) v => { d with data := some v } with
        short := some 'd', about := "Request body, streamed to the server" },
      .of "timeout-ms" readInt64? (·.timeoutMs) fun d v => { d with timeoutMs := some v },
      { OptionRule.file "config" (·.config)
          fun (d : SendDraft) v => { d with config := some v } with
        about := "Config file whose \x60[connector]\x60 section tunes the connector" },
      { OptionRule.of "pipe-buffer" readSize? (·.pipeBuffer)
          fun (d : SendDraft) v => { d with pipeBuffer := some v } with
        about := "Request body pipe capacity in bytes; overrides the config file" }]

def complete (d : SendDraft) : Except ArgumentFault SendArguments :=
  match d.url with
  | some url =>
    .ok ⟨url, d.method.getD .get, d.headers, d.data, d.timeoutMs, d.config, d.pipeBuffer⟩
  | none => .error .missingOption

end SendDraft

namespace ToolArguments

def grammar : Grammar (Option String) where
  options :=
    [{ OptionRule.of "log-level" some id fun _ v => some v with
        byDefault := "warn", about := "Log level when RUST_LOG is not set" }]
  commands :=
    [("check", "Probe one address of a hostname once and print its health"),
      ("send", "Send one request and print the response")]

/-- A fault in the arguments of a command. Help asked for there is help for that command. -/
def faultIn (command : String) : ArgumentFault → ArgumentFault
  | .helpAsked _ => .helpAsked (some command)
  | e => e

def readCommand (c : Found) : Except ArgumentFault ToolCommand :=
  if c.command == "check" then do
    return .check (← (← CheckDraft.grammar.readAll {} c.arguments).complete)
  else do
    return .send (← (← SendDraft.grammar.readAll {} c.arguments).complete)

/-- Reads the arguments of a command, with faults that tell which command it is. -/
def parseCommand (c : Found) : Except ArgumentFault ToolCommand :=
  (readCommand c).mapError (faultIn c.command)

/-- Reads the arguments of the tool. A fault in those of the command comes first. -/
def parse (args : List String) : Except ArgumentFault ToolArguments := do
  let (r, found) ← grammar.read (.start none) args
  let command ← found.mapM parseCommand
  let level := (← r.settle).draft
  match command with
  | some c => return ⟨level.getD "warn", c⟩
  | none => throw (if level.isNone then .nothingGiven else .noCommand)

end ToolArguments

end EndpointClient.CommandLine
