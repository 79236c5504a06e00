import EndpointClient.Entity

/-!
# EndpointClient.Rehearsal.SinkScript

Scripts that register sinks for an entity and write it, with sinks that keep what they get, note
each call and fail on demand.

* `RecordingSink.answer` is how such a sink answers.
* `SinkBench.play` plays a script.
-/

namespace EndpointClient.Rehearsal

inductive SinkCallKind where
  | write
  | flush
  | shutdown
  deriving DecidableEq

def SinkCallKind.name : SinkCallKind → String
  | .write => "write"
  | .flush => "flush"
  | .shutdown => "shutdown"

def SinkCallKind.of : SinkCall → SinkCallKind
  | .write _ => .write
  | .flush => .flush
  | .shutdown => .shutdown

/-- The call that is to fail: the first of its sort has the number 1. -/
structure SinkFailure where
  kind : SinkCallKind
  number : Nat
  error : IoError

/-- How sinks behave: how much they take of a write, and after how many bytes they take nothing. -/
structure SinkRules where
  perWrite : Option Nat := none
  fullAfter : Option Nat := none
  failure : Option SinkFailure := none

inductive SinkEvent where
  | took (n : Nat)
  | done (kind : SinkCallKind)
  | failed (kind : SinkCallKind)
  | dropped

/-- What all sinks of a script have stored and met: the parts stored and the events, newest first,
and how often each sort of call came. -/
structure RecordingSink where
  rules : SinkRules
  stored : List Bytes := []
  size : Nat := 0
  events : List SinkEvent := []
  writes : Nat := 0
  flushes : Nat := 0
  shutdowns : Nat := 0

namespace RecordingSink

def count (s : RecordingSink) : SinkCallKind → Nat
  | .write => s.writes
  | .flush => s.flushes
  | .shutdown => s.shutdowns

def counted (s : RecordingSink) : SinkCallKind → RecordingSink
  | .write => { s with writes := s.writes + 1 }
  | .flush => { s with flushes := s.flushes + 1 }
  | .shutdown => { s with shutdowns := s.shutdowns + 1 }

def note (s : RecordingSink) (e : SinkEvent) : RecordingSink := { s with events := e :: s.events }

/-- The failure of the call that comes next, if it is to fail. -/
def failureNow? (s : RecordingSink) (kind : SinkCallKind) : Option IoError :=
  s.rules.failure.bind fun f =>
    if f.kind = kind ∧ f.number = s.count kind then some f.error else none

def accepts (s : RecordingSink) (bs : Bytes) : Bytes :=
  if s.rules.fullAfter.any (· ≤ s.size) then []
  else s.rules.perWrite.elim bs bs.take

def answer (s : RecordingSink) (c : SinkCall) : RecordingSink × SinkReply :=
  let kind := SinkCallKind.of c
  let s := s.counted kind
  match s.failureNow? kind with
  | some e => (s.note (.failed kind), .failed e)
  | none =>
    match c with
    | .write bs =>
      let part := s.accepts bs
      let n := part.length
      ({ s.note (.took n) with stored := part :: s.stored, size := s.size + n }, .took n)
    | _ => (s.note (.done kind), .done)

def data (s : RecordingSink) : Bytes := s.stored.reverse.flatten

end RecordingSink

inductive SinkStep where
  | register
  | write

/-- What a step came to: its result, whether the entity is still there, and what happened. -/
structure SinkStepResult where
  result : Except IoError Unit
  hasEntity : Bool
  events : List SinkEvent

/-- The entity, and a sink or none beside it. What sinks store goes into one record. -/
structure SinkBench where
  entity : Option Entity
  registered : Bool := false
  record : RecordingSink

namespace SinkBench

def step (b : SinkBench) : SinkStep → SinkBench × Except IoError Unit
  | .register =>
    ({ b with
        registered := true
        record := if b.registered then b.record.note .dropped else b.record }, .ok ())
  | .write =>
    let slot : EntitySlot RecordingSink :=
      ⟨b.entity, if b.registered then some b.record else none⟩
    match slot.write RecordingSink.answer with
    | (slot', some record, r) => (⟨slot'.entity, false, record.note .dropped⟩, r)
    | (slot', none, r) => ({ b with entity := slot'.entity }, r)

def observe (b : SinkBench) (s : SinkStep) : SinkBench × SinkStepResult :=
  let (b', r) := b.step s
  ({ b' with record := { b'.record with events := [] } },
    ⟨r, b'.entity.isSome, b'.record.events.reverse⟩)

/-- Plays a script: the results of its steps, and all bytes stored. -/
def play (entity : Option Entity) (rules : SinkRules) (steps : List SinkStep) :
    List SinkStepResult × Bytes :=
  let (b, results) := steps.foldl (fun (acc : SinkBench × List SinkStepResult) s =>
    let (b, a) := acc.1.observe s
    (b, a :: acc.2)) (⟨entity, false, { rules }⟩, [])
  (results.reverse, b.record.data)

end SinkBench

end EndpointClient.Rehearsal
