import EndpointClient.CommandLine.Check
import EndpointClient.Config.Load
import EndpointClient.Connector.Basic
import EndpointClient.Http.HeaderLine
import EndpointClient.Http.Response
import EndpointClient.Request

/-!
# EndpointClient.CommandLine.Send

What `send` does with its arguments: the request that it sends, the connector that it sends it
through, and the response as it is printed.
-/

namespace EndpointClient.CommandLine

namespace SendArguments

/-- The request. Its fields are written on one line each. -/
def request (a : SendArguments) : Except Http.HeaderLineError ClientRequest := do
  let fields ← a.headers.mapM Http.HeaderLine.parse
  let timeout := a.timeoutMs.map fun ms =>
    RequestSetting.property ClientRequest.readTimeoutKey (.integer ms)
  let entity := a.data.map fun s => RequestSetting.entity (.whole (Utf8.encode s))
  return .make a.method a.url
    (fields.map (fun f => .header f.1 f.2) ++ timeout.toList ++ entity.toList)

/-- The settings of the connector: those of the file that is named, or of none, with the capacity
that is given. `open_` is what is found at a path. -/
def connectorConfig (a : SendArguments) (found : String → FileContent) :
    Except ConfigError ConnectorConfig := do
  let c ← match a.config with
    | some path => (·.connector) <$> ClientConfig.load (found path)
    | none => pure {}
  return match a.pipeBuffer with
    | some n => { c with pipeBufferBytes := n }
    | none => c

end SendArguments

/-- What a response is printed as. A value that does not show is not printed. -/
def responseHeadLines (r : Http.Response) : List String :=
  (String.ofList (Text.natText r.status.code) ++ " " ++ r.status.reason) ::
    (r.headers.toList.map fun f => f.1.text ++ ": " ++ (f.2.visibleText?.getD "<binary>")) ++ [""]

/-- What is printed for a response, line by line, and whether all of it could be printed. -/
def responseLines (r : Http.Response) : List String × Except Http.BodyError Unit :=
  match r.text Http.Chunks.noLimit with
  | .ok text => (responseHeadLines r ++ [text], .ok ())
  | .error e => (responseHeadLines r, .error e)

end EndpointClient.CommandLine
