import EndpointClient.Http.Header
import EndpointClient.Text.Blank

/-!
# EndpointClient.Http.HeaderLine

A header field written on one line, `name: value`, with blanks around either part.

* `HeaderLine.parse` reads such a line: the name ends at the first colon.
-/

namespace EndpointClient.Http

inductive HeaderLineError where
  | noColon (line : String)
  | badName
  | badValue
  deriving DecidableEq, Repr

def HeaderLineError.message : HeaderLineError → String
  | .noColon line => "header '" ++ line ++ "' is not in 'name: value' form"
  | .badName => HeaderName.invalidText
  | .badValue => HeaderValue.invalidText

namespace HeaderLine

def split? (cs : List Char) : Option (List Char × List Char) :=
  match cs.span (· ≠ ':') with
  | (name, _ :: value) => some (name, value)
  | (_, []) => none

def parse (line : String) : Except HeaderLineError (HeaderName × HeaderValue) :=
  match split? line.toList with
  | none => .error (.noColon line)
  | some (name, value) =>
    match HeaderName.ofChars? (Text.trim name) with
    | none => .error .badName
    | some n =>
      match HeaderValue.ofBytes? ((Text.trim value).flatMap Utf8.encodeChar) with
      | none => .error .badValue
      | some v => .ok (n, v)

end HeaderLine

end EndpointClient.Http
