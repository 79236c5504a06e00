import EndpointClient.CommandLine.Daemon
import EndpointClient.CommandLine.Tool

/-!
# EndpointClient.CommandLine.Help

What the programs say of themselves: their usage, their commands, and their options.

* `Grammar.help` is the explanation of a program or a command.
* `ToolArguments.help` and `DaemonArguments.help` are those of the two programs.
-/

namespace EndpointClient.CommandLine

abbrev HelpEntry := String × String

/-- Entries below a title, where all that is said begins in one column, two behind the longest
name. -/
def helpSection (title : String) (entries : List HelpEntry) : List String :=
  let width := (entries.map fun e => e.1.length).foldl max 0
  (title ++ ":") :: entries.map fun e =>
    "  " ++ e.1 ++ String.ofList (List.replicate (width - e.1.length + 2) ' ') ++ e.2

namespace OptionRule

def shape {δ : Type} (o : OptionRule δ) : String := "--" ++ o.long ++ " <" ++ o.valueName ++ ">"

/-- The letter of an option, or the room for one. -/
def letter {δ : Type} (o : OptionRule δ) : String :=
  match o.short with
  | some c => String.ofList ['-', c, ',', ' ']
  | none => "    "

def helpEntry {δ : Type} (o : OptionRule δ) : HelpEntry :=
  let value := match o.byDefault with
    | some v => "[default: " ++ v ++ "]"
    | none => ""
  let gap := if o.about.isEmpty || value.isEmpty then "" else " "
  (o.letter ++ o.shape, o.about ++ gap ++ value)

end OptionRule

namespace Grammar

/-- The arguments in short: options that may be left out, those that may not, and a command. -/
def usage {δ : Type} (g : Grammar δ) : String :=
  let optional := if g.options.all (·.required) then "" else " [OPTIONS]"
  let required := (g.options.filter (·.required)).map fun o => " " ++ o.shape
  optional ++ String.join required ++ if g.commands.isEmpty then "" else " <COMMAND>"

/-- What is said of the command that explains commands. -/
def helpAbout : String := "Print this message or the help of the given subcommand(s)"

/-- The explanation of a program or a command, line by line. -/
def help {δ : Type} (g : Grammar δ) (name about : String) : List String :=
  let commands := if g.commands.isEmpty then []
    else helpSection "Commands" (g.commands ++ [(helpName, helpAbout)]) ++ [""]
  let options := g.options.map (·.helpEntry) ++ [("-h, --help", "Print help")]
  [about, "", "Usage: " ++ name ++ g.usage, ""] ++ commands ++ helpSection "Options" options

end Grammar

namespace ToolArguments

def toolName : String := "endpoint-cli"

/-- The explanation of the command that explains commands. -/
def helpOfHelp : List String :=
  [Grammar.helpAbout, "", "Usage: " ++ toolName ++ " help [COMMAND]...", ""] ++
    helpSection "Arguments" [("[COMMAND]...", "Print help for the subcommand(s)")]

/-- The explanation of the tool, or of one of its commands. -/
def help : Option String → List String
  | none => grammar.help toolName "Probe endpoints and send one-off requests"
  | some command =>
    let about := (grammar.commands.find? (·.1 == command)).elim "" (·.2)
    let name := toolName ++ " " ++ command
    if command == "check" then CheckDraft.grammar.help name about
    else if command == "send" then SendDraft.grammar.help name about
    else helpOfHelp

end ToolArguments

namespace DaemonArguments

def daemonName : String := "resilient-http"

def help : List String :=
  grammar.help daemonName "Monitor the health of every resolved address of a set of endpoints"

end DaemonArguments

end EndpointClient.CommandLine
