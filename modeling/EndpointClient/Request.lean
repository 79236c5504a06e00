import EndpointClient.Engine.Request
import EndpointClient.Entity
import EndpointClient.Json.Basic

/-!
# EndpointClient.Request

Requests as callers make them: method, target, header fields, loosely typed properties, and an
entity or none.

* `ClientRequest.make` is a request with all that a caller sets on it, one `RequestSetting` after
  another.
* `ClientRequest.readTimeout` is the one property that is looked at.
* `ClientRequest.engineRequest` is what an engine gets of a request, the body apart.
-/

namespace EndpointClient

/-- Loosely typed settings, ascending by key, each key once. -/
structure Properties where
  entries : List (String × Json) := []

namespace Properties

def insertEntry (key : String) (value : Json) : List (String × Json) → List (String × Json)
  | [] => [(key, value)]
  | (k, v) :: rest =>
    if key = k then (key, value) :: rest
    else if key < k then (key, value) :: (k, v) :: rest
    else (k, v) :: insertEntry key value rest

def insert (p : Properties) (key : String) (value : Json) : Properties :=
  ⟨insertEntry key value p.entries⟩

def get? (p : Properties) (key : String) : Option Json :=
  (p.entries.find? (·.1 = key)).map (·.2)

def ofList (settings : List (String × Json)) : Properties :=
  settings.foldl (fun p s => p.insert s.1 s.2) {}

end Properties

structure ClientRequest where
  method : Http.Method
  uri : Http.Uri
  headers : Http.HeaderMap
  properties : Properties
  entity : Option Entity

/-- What a caller sets on a request: one more header field, a property, or the entity. -/
inductive RequestSetting where
  | header (n : Http.HeaderName) (v : Http.HeaderValue)
  | property (key : String) (value : Json)
  | entity (e : Entity)

namespace ClientRequest

def new (method : Http.Method) (uri : Http.Uri) : ClientRequest := ⟨method, uri, .empty, {}, none⟩

def header (r : ClientRequest) (n : Http.HeaderName) (v : Http.HeaderValue) : ClientRequest :=
  { r with headers := r.headers.append n v }

def mapHeaders (r : ClientRequest) (change : Http.HeaderMap → Http.HeaderMap) : ClientRequest :=
  { r with headers := change r.headers }

def property (r : ClientRequest) (key : String) (value : Json) : ClientRequest :=
  { r with properties := r.properties.insert key value }

/-- Gives the request an entity, in the place of the one it has. -/
def withEntity (r : ClientRequest) (e : Entity) : ClientRequest := { r with entity := some e }

def set (r : ClientRequest) : RequestSetting → ClientRequest
  | .header n v => r.header n v
  | .property key value => r.property key value
  | .entity e => r.withEntity e

/-- A request with all that is set on it, the earliest first. -/
def make (method : Http.Method) (uri : Http.Uri) (settings : List RequestSetting) : ClientRequest :=
  settings.foldl set (new method uri)

/-- The property that holds the milliseconds a request may take. -/
def readTimeoutKey : String := "read_timeout"

/-- The time that a value stands for: a positive integer of milliseconds that 64 bits with a sign
can hold. -/
def timeoutOf? (value : Json) : Option Duration :=
  match value.asInt64? with
  | some n => if 0 < n then some (.ofMillis n.toNat) else none
  | none => none

/-- How long the request may take, if a property says so. -/
def readTimeout (r : ClientRequest) : Option Duration :=
  (r.properties.get? readTimeoutKey).bind timeoutOf?

def hasEntity (r : ClientRequest) : Bool := r.entity.isSome

/-- What an engine gets of a request, the body apart. -/
def engineRequest (r : ClientRequest) : EngineRequest :=
  ⟨r.method, r.uri, r.headers, r.readTimeout⟩

end ClientRequest

end EndpointClient
