import EndpointClient.Http.Body
import EndpointClient.Pipe.Stream

/-!
# EndpointClient.Rehearsal.PipeScript

Scripts played on a pipe, one attempt a step, with an end that may be given up or turned into
something else on the way.

* `PipeBench.play` plays a script.
-/

namespace EndpointClient.Rehearsal

open Http (BodyError)

/-- A step on a pipe: something that happens to it as it is, or its reader is used as a stream or a
body. -/
inductive PipeStep where
  | event (e : PipeEvent)
  | next
  | body (limit : Nat)

inductive PipeAnswer where
  | wrote (n : Nat)
  | done
  | read (bs : Bytes)
  | chunk (bs : Bytes)
  | ended
  | body (r : Except BodyError Bytes)
  | pending
  | gone
  | failed (e : IoError)

/-- What the reader of a pipe is now: itself, a stream of chunks that has ended or not, or gone. -/
inductive ReaderUse where
  | plain
  | stream (ended : Bool)
  | gone
  deriving DecidableEq

/-- A pipe with the use that its reader is put to. -/
structure PipeBench where
  pipe : Pipe
  reader : ReaderUse := .plain

namespace PipeBench

/-- What is said of an event on a pipe. Of a buffer only what was read is told. -/
def answer (e : PipeEvent) (r : PipeReply) : PipeAnswer :=
  match r with
  | .wrote (.took n) => .wrote n
  | .wrote .pending => .pending
  | .wrote (.failed e) => .failed e
  | .read _ .done => .read (e.handedOut r)
  | .read _ .pending => .pending
  | .read _ (.failed e) => .failed e
  | .done => .done
  | .gone => .gone

def event (b : PipeBench) (e : PipeEvent) : PipeBench × PipeAnswer :=
  let (p, r) := b.pipe.step e
  ({ b with pipe := p }, answer e r)

/-- The reader reads the next chunk as a stream that has not ended. -/
def nextChunk (b : PipeBench) : PipeBench × PipeAnswer :=
  let (s, r) := (PipeStream.mk b.pipe false).next
  let answer : PipeAnswer :=
    match r with
    | .chunk bs => .chunk bs
    | .pending => .pending
    | .ended => .ended
    | .failed e => .failed e
  ({ b with pipe := s.pipe, reader := .stream s.isOver }, answer)

/-- The reader collects a body from what is there, and is gone afterwards. -/
def collect (b : PipeBench) (limit : Nat) : PipeBench × PipeAnswer :=
  let (p, r) := b.pipe.pull
  let answer : PipeAnswer :=
    match r with
    | .chunk bs =>
      if limit < bs.length then .body (.error .tooLong)
      else
        match p.pull.2 with
        | .failed e => .body (.error (.broken e))
        | .ended => .body (.ok bs)
        | _ => .pending
    | .pending => .pending
    | .ended => .body (.ok [])
    | .failed e => .body (.error (.broken e))
  ({ b with pipe := p.dropReader, reader := .gone }, answer)

def step (b : PipeBench) : PipeStep → PipeBench × PipeAnswer
  | .event .dropReader =>
    if b.reader = .gone then (b, .gone)
    else ({ b with pipe := b.pipe.dropReader, reader := .gone }, .done)
  | .event (.read buffer) => if b.reader = .plain then b.event (.read buffer) else (b, .gone)
  | .event e => b.event e
  | .next =>
    match b.reader with
    | .gone => (b, .gone)
    | .stream true => (b, .ended)
    | _ => b.nextChunk
  | .body limit => if b.reader = .plain then b.collect limit else (b, .gone)

def play (capacity : Nat) (steps : List PipeStep) : List PipeAnswer :=
  (steps.foldl (fun (acc : PipeBench × List PipeAnswer) s =>
    let (b, a) := acc.1.step s
    (b, a :: acc.2)) (⟨.new capacity, .plain⟩, [])).2.reverse

end PipeBench

end EndpointClient.Rehearsal
