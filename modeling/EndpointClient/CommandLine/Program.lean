import EndpointClient.Config.Basic
import EndpointClient.Observe.Filter
import EndpointClient.Observe.Journal

/-!
# EndpointClient.CommandLine.Program

What a program leaves behind: the lines that it writes, in order, and the code that it ends with.
-/

namespace EndpointClient.CommandLine

/-- The code of a program that did what it was asked to. -/
def exitSuccess : Nat := 0

/-- The code of a program that could not do it. Faults of its arguments have codes of their own. -/
def exitFailure : Nat := 1

/-- The code of a program that broke down. -/
def exitBroken : Nat := 101

/-- The part of the program that log events belong to. -/
def logTarget : String := "resilient_http"

/-- A line that a program writes: a log event, or a text. -/
inductive OutputLine where
  | event (e : LogEvent)
  | text (s : String)
  deriving DecidableEq, Repr

structure ProgramRun where
  lines : List OutputLine
  exitCode : Nat
  deriving DecidableEq, Repr

/-- The lines for what has happened, of which the settings let some through. -/
def OutputLine.ofJournal (o : ObservabilityConfig) (j : Journal) : List OutputLine :=
  (j.events.filter ((LogFilter.parse o.defaultFilter).admits logTarget)).map .event

end EndpointClient.CommandLine
