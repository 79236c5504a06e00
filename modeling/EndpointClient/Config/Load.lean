import EndpointClient.Config.Decode
import EndpointClient.Config.Validation
import EndpointClient.IoError
import EndpointClient.Text.Utf8
import EndpointClient.Toml.Parser

/-!
# EndpointClient.Config.Load

From the text or the file of a configuration to the configuration, or to the reason why there is
none.
-/

namespace EndpointClient

inductive ConfigError where
  | unreadable (kind : IoErrorKind)
  | noDocument (e : Toml.TomlError)
  | wrongValue (e : WrongValue)
  | invalid (problems : List ConfigProblem)
  deriving DecidableEq, Repr

inductive FileContent where
  | missing
  | directory
  | bytes (bs : Bytes)

namespace ClientConfig

/-- Reads a configuration, which must have no problems. -/
def parse (text : String) : Except ConfigError ClientConfig :=
  match Toml.parse text with
  | .error e => .error (.noDocument e)
  | .ok entries =>
    match ofEntries entries with
    | .error e => .error (.wrongValue e)
    | .ok c =>
      match c.problems with
      | [] => .ok c
      | ps => .error (.invalid ps)

/-- Reads a configuration from what is found at a path. -/
def load : FileContent → Except ConfigError ClientConfig
  | .missing => .error (.unreadable .notFound)
  | .directory => .error (.unreadable .isADirectory)
  | .bytes bs =>
    match Utf8.decode? bs with
    | none => .error (.unreadable .invalidData)
    | some text => parse text

end ClientConfig

end EndpointClient
