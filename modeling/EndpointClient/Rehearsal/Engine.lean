import EndpointClient.Connector.Exchange
import EndpointClient.Engine.Request
import EndpointClient.Net.PinnedResolver
import EndpointClient.Rehearsal.Network

/-!
# EndpointClient.Rehearsal.Engine

Engines that follow a script, or that use a network in memory.

* A call is a list of steps (`CallStep`): gates to pass, the request body to read, time to let
  pass, and an answer; on a network a link to get, a request to hand over, and events to wait for.
* `Reply.plan` is the call of a full script, `EchoReply.plan` the call of the plain one, which reads
  the whole body and sends it back.
* `EngineScript.take` gives each call the next reply, and the same one for ever after the last.
-/

namespace EndpointClient.Rehearsal

open Http

/-- How a call is answered. Without a body of its own an answer carries back what was read. -/
inductive CallAnswer where
  | respond (status : Nat) (headers : Option HeaderMap) (body : Option Chunks)
  | fail (e : EngineError)
  | panic (text : String)

/-- The end of a call that has read some bytes. A status out of range is a failure of the transport,
and fields that cannot be read make the request invalid. -/
def CallAnswer.toEnd (read : Bytes) : CallAnswer → CallEnd
  | .respond status headers body =>
    match StatusCode.ofNat? status, headers with
    | none, _ => .returned (.error (.transport StatusCode.invalidText))
    | some _, none => .returned (.error (.invalidRequest "script"))
    | some s, some h => .returned (.ok ⟨s, h, body.getD (.ofBytes read)⟩)
  | .fail e => .returned (.error e)
  | .panic t => .panicked t

/-- A step of a call. On a network it is said whether the caller reads the body of the response,
and which resolver is pinned if one is. -/
inductive CallStep where
  | pass (gate : String)
  | readUpTo (n : Nat)
  | readAll
  | dropBody
  | wait (ms : Nat)
  | waitUntil (time : Nat)
  | answer (a : CallAnswer)
  | connect (isRead : Bool) (pinned : Option PinnedResolver)
  | deliver (isRead : Bool) (call : LinkCall) (link : Link) (head : RequestHead)
  | listen (isRead : Bool) (call : LinkCall) (link : Link) (events : LinkEvents)

/-- How much of the request body a call reads. -/
inductive ReadRule where
  | nothing
  | upTo (n : Nat)
  | all

/-- A reply of a full script. -/
structure Reply where
  gateFirst : Option String := none
  read : ReadRule := .all
  delayMs : Option Nat := none
  gate : Option String := none
  answer : CallAnswer

def Reply.plan (r : Reply) : List CallStep :=
  let reading := match r.read with
    | .nothing => CallStep.dropBody
    | .upTo n => .readUpTo n
    | .all => .readAll
  (r.gateFirst.map CallStep.pass).toList ++ [reading] ++ (r.delayMs.map CallStep.wait).toList ++
    (r.gate.map CallStep.pass).toList ++ [.answer r.answer]

/-- A reply of a plain script. -/
inductive EchoReply where
  | status (code : Nat)
  | fail
  | cancel
  | refuse
  | gated (gate : String) (code : Nat)

def EchoReply.refused : EngineError := .transport "connection refused"

def EchoReply.headers : Option HeaderMap := do
  let name ← HeaderName.ofString? "set-cookie"
  let a ← HeaderValue.ofBytes? (Utf8.encode "a=1")
  let b ← HeaderValue.ofBytes? (Utf8.encode "b=2")
  return (HeaderMap.empty.append name a).append name b

/-- The steps of a plain reply, which takes `delayMs`. To refuse takes no time, and drops the body
unread. -/
def EchoReply.plan (delayMs : Nat) (r : EchoReply) : List CallStep :=
  let reading := .readAll :: if delayMs = 0 then [] else [CallStep.wait delayMs]
  let echo code := CallStep.answer (.respond code headers none)
  match r with
  | .refuse => [.dropBody, .answer (.fail refused)]
  | .fail => reading ++ [.answer (.fail refused)]
  | .cancel => reading ++ [.answer (.fail .cancelled)]
  | .status code => reading ++ [echo code]
  | .gated gate code => reading ++ [.pass gate, echo code]

/-- A script: the calls to come, and the one for all calls after them. -/
structure EngineScript where
  replies : List (List CallStep)
  fallback : List CallStep

namespace EngineScript

def take (s : EngineScript) : EngineScript × List CallStep :=
  match s.replies with
  | [] => (s, s.fallback)
  | r :: rest => ({ s with replies := rest }, r)

def push (s : EngineScript) (r : List CallStep) : EngineScript :=
  { s with replies := s.replies ++ [r] }

end EngineScript

def EngineScript.networked (isRead : Bool) : EngineScript := ⟨[], [.connect isRead none]⟩

/-- An engine whose connections on the network all go to one address. Only the heads of its
responses are looked at. -/
def EngineScript.pinned (address : IpAddress) : EngineScript :=
  ⟨[], [.connect false (some ⟨address⟩)]⟩

/-- Where the request body of a call comes from: known chunks, or a request on its way. -/
inductive CallSource where
  | chunks (cs : Chunks)
  | send (index : Nat)
  | gone

structure Call where
  engine : Nat
  began : Nat
  request : EngineRequest
  exactSize : Option Nat
  source : CallSource
  /-- The chunks read, the latest first, and how many bytes they are. -/
  taken : List Bytes
  size : Nat
  /-- Whether the body was read to its end. -/
  whole : Bool
  todo : List CallStep
  state : CallState

namespace Call

def received (c : Call) : Bytes := c.taken.reverse.flatten

def body? (c : Call) : Option Bytes := if c.whole then some c.received else none

def deadline? (c : Call) : Option Nat :=
  if c.state.isRunning then
    match c.todo with
    | .waitUntil t :: _ => some t
    | .listen _ call _ events :: _ => (call.next events).map (·.1)
    | _ => none
  else none

def end? (c : Call) : Option CallEnd :=
  match c.state with
  | .ended how => some how
  | _ => none

end Call

end EndpointClient.Rehearsal
