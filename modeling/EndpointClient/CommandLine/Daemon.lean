import EndpointClient.CommandLine.Tool

/-!
# EndpointClient.CommandLine.Daemon

The arguments of the daemon: the file with its configuration.
-/

namespace EndpointClient.CommandLine

structure DaemonArguments where
  config : String
  deriving DecidableEq, Repr

namespace DaemonArguments

def grammar : Grammar (Option String) where
  options :=
    [{ OptionRule.file "config" id fun _ v => some v with
        short := some 'c', byDefault := "resilient-http.toml",
        about := "Path to the TOML configuration file" }]

def parse (args : List String) : Except ArgumentFault DaemonArguments := do
  return ⟨(← grammar.readAll none args).getD "resilient-http.toml"⟩

end DaemonArguments

end EndpointClient.CommandLine
