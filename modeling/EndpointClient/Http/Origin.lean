import EndpointClient.Http.Method
import EndpointClient.Http.Uri

/-!
# EndpointClient.Http.Origin

Where a request leads, and how its target is written on the way there.

* `Origin.of?` is the scheme and the authority that a connection is made for. Requests with the
  same origin may share a connection.
* `Uri.hostField` is the host as the server is told of it, `Uri.wireTarget` the target.
-/

namespace EndpointClient.Http

/-- Where a connection leads. The case of letters does not count. -/
structure Origin where
  scheme : List Char
  authority : List Char
  deriving DecidableEq, Repr

def Method.connect : Method := ⟨"CONNECT", by decide⟩

/-- The method that asks for the head of a response alone. -/
def Method.head : Method := ⟨"HEAD", by decide⟩

/-- Where a request leads, `none` if its target names no scheme or no authority. A tunnel needs no
scheme: the port tells which one is meant. -/
def Origin.of? (method : Method) (u : Uri) : Option Origin :=
  if u.authority.isEmpty then none
  else
    let authority := u.authority.map Char.toLower
    match u.scheme with
    | some s => some ⟨s.map Char.toLower, authority⟩
    | none =>
      if method = .connect then
        some ⟨(if u.port? = some 443 then "https" else "http").toList, authority⟩
      else none

namespace Uri

/-- The port that a scheme stands for: those that are secured have one of their own. -/
def schemePort (u : Uri) : Nat :=
  if u.scheme = some "https".toList || u.scheme = some "wss".toList then 443 else 80

/-- The host that a server is told of: with the port as it was written, unless that is the one that
the scheme stands for. -/
def hostField (u : Uri) : List Char :=
  let host := hostOf u.authority
  match u.port? with
  | none => host
  | some p =>
    if p = u.schemePort then host
    else host ++ ':' :: (u.authority.reverse.takeWhile (· != ':')).reverse

/-- The target as it stands in a request line: the authority for a tunnel, the path with the query
for all else. -/
def wireTarget (method : Method) (u : Uri) : List Char :=
  if method = .connect then u.authority else u.pathAndQueryChars

end Uri

end EndpointClient.Http
