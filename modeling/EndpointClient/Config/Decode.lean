import EndpointClient.Config.Basic
import EndpointClient.Toml.Value

/-!
# EndpointClient.Config.Decode

Configurations out of TOML values. Only the known keys are looked at: a key that is missing leaves
its default, a value of another type or range is refused.

* `ClientConfig.ofEntries` decodes a whole document.
* A record may be written as a table, or as an array of its fields in order, where fields missing at
  the end have their defaults.
-/

namespace EndpointClient

open Toml (Value)

/-- A key that holds a value of another type, or out of its range. -/
structure WrongValue where
  key : String
  deriving DecidableEq, Repr

/-- The fields of a record by their index and their key. -/
abbrev Fields := Nat → String → Option Value

/-- The fields of a value that is a record. A date stands for a record of which no field is
given. -/
def fieldsOf? : Value → Option Fields
  | .table entries => some fun _ key => Toml.find? key entries
  | .array items => some fun index _ => items[index]?
  | .dateTime _ => some fun _ _ => none
  | _ => none

/-- A field, or its default if it is not given. -/
def Fields.get {α : Type} (fs : Fields) (index : Nat) (key : String) (read : Value → Option α)
    (default : α) : Except WrongValue α :=
  match fs index key with
  | none => .ok default
  | some v =>
    match read v with
    | some x => .ok x
    | none => .error ⟨key⟩

def readText? : Value → Option String
  | .string s => some s
  | _ => none

def readFlag? : Value → Option Bool
  | .boolean b => some b
  | _ => none

def readInteger? : Value → Option Int
  | .integer n => some n
  | _ => none

def readCount? : Value → Option Nat
  | .integer n => if 0 ≤ n then some n.toNat else none
  | _ => none

def readPort? (v : Value) : Option UInt16 :=
  (readCount? v).bind fun n => if n < 65536 then some n.toUInt16 else none

def readAddress? (v : Value) : Option IpAddress := (readText? v).bind IpAddress.parse?

def readList? {α : Type} (read : Value → Option α) : Value → Option (List α)
  | .array items => items.mapM read
  | _ => none

def EndpointConfig.ofFields (fs : Fields) : Except WrongValue EndpointConfig := do
  let d : EndpointConfig := {}
  return {
    name := ← fs.get 0 "name" readText? d.name
    hostname := ← fs.get 1 "hostname" readText? d.hostname
    port := ← fs.get 2 "port" readPort? d.port
    healthPath := ← fs.get 3 "health_path" readText? d.healthPath
    scheme := ← fs.get 4 "scheme" readText? d.scheme
    readTimeoutMs := ← fs.get 5 "read_timeout_ms" readInteger? d.readTimeoutMs
    checkIntervalSecs := ← fs.get 6 "check_interval_secs" readCount? d.checkIntervalSecs
    addresses := ← fs.get 7 "addresses" (readList? readAddress?) d.addresses }

def ConnectorConfig.ofFields (fs : Fields) : Except WrongValue ConnectorConfig := do
  let d : ConnectorConfig := {}
  return { pipeBufferBytes := ← fs.get 0 "pipe_buffer_bytes" readCount? d.pipeBufferBytes }

def ObservabilityConfig.ofFields (fs : Fields) : Except WrongValue ObservabilityConfig := do
  let d : ObservabilityConfig := {}
  return {
    logLevel := ← fs.get 0 "log_level" readText? d.logLevel
    metricsEnabled := ← fs.get 1 "metrics_enabled" readFlag? d.metricsEnabled
    metricsAddress := ← fs.get 2 "metrics_address" readText? d.metricsAddress
    reportIntervalSecs := ← fs.get 3 "report_interval_secs" readCount? d.reportIntervalSecs }

/-- A record within a record, or its default if it is not given. -/
def Fields.record {α : Type} (fs : Fields) (index : Nat) (key : String)
    (read : Fields → Except WrongValue α) (default : α) : Except WrongValue α :=
  match fs index key with
  | none => .ok default
  | some v =>
    match fieldsOf? v with
    | some fs' => read fs'
    | none => .error ⟨key⟩

/-- A list of records within a record, empty if it is not given. -/
def Fields.records {α : Type} (fs : Fields) (index : Nat) (key : String)
    (read : Fields → Except WrongValue α) : Except WrongValue (List α) :=
  match fs index key with
  | none => .ok []
  | some (.array items) =>
    items.mapM fun v =>
      match fieldsOf? v with
      | some fs' => read fs'
      | none => .error ⟨key⟩
  | some _ => .error ⟨key⟩

def ClientConfig.ofFields (fs : Fields) : Except WrongValue ClientConfig := do
  return {
    endpoints := ← fs.records 0 "endpoints" EndpointConfig.ofFields
    connector := ← fs.record 1 "connector" ConnectorConfig.ofFields {}
    observability := ← fs.record 2 "observability" ObservabilityConfig.ofFields {} }

def ClientConfig.ofEntries (entries : List (String × Value)) : Except WrongValue ClientConfig :=
  ClientConfig.ofFields fun _ key => Toml.find? key entries

end EndpointClient
