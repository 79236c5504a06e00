import EndpointClient.Pipe

/-!
# EndpointClient.Pipe.Stream

The reader of a pipe as a stream of chunks, which is how a request body is read.

* `PipeStream.next` asks for the next chunk. A stream that has told of the end, or of a failure, is
  over: its reader is gone, and there is nothing more to come.
* `PipeStream.step` is what happens to the two sides as events: the writer does something, or the
  next chunk is asked for. `PipeStream.run` is a run through them.

There is one lemma for each thing that can come of asking for the next chunk (`next_over`,
`next_buffered`, `next_shut`, `next_cut`, `next_open`).
-/

namespace EndpointClient

/-- The reader of a pipe as a stream of chunks. -/
structure PipeStream where
  pipe : Pipe
  isOver : Bool := false
  deriving DecidableEq, Repr

/-- What the writer does: it tries to write, flushes, closes the pipe or goes away. -/
inductive WriterMove where
  | write (bs : Bytes)
  | flush
  | shutdown
  | drop
  deriving DecidableEq, Repr

/-- What that is for the pipe. -/
def WriterMove.event : WriterMove → PipeEvent
  | .write bs => .write bs
  | .flush => .flush
  | .shutdown => .shutdown
  | .drop => .dropWriter

/-- What happens to a stream: its writer does something, or the next chunk is asked for. -/
inductive StreamEvent where
  | writer (m : WriterMove)
  | next
  deriving DecidableEq, Repr

inductive StreamReply where
  | writer (r : PipeReply)
  | next (answer : Pull)
  deriving DecidableEq, Repr

namespace PipeStream

def next (s : PipeStream) : PipeStream × Pull :=
  if s.isOver then (s, .ended)
  else
    match s.pipe.pull with
    | (p, .chunk bs) => ({ s with pipe := p }, .chunk bs)
    | (_, .pending) => (s, .pending)
    | (p, .ended) => (⟨p.dropReader, true⟩, .ended)
    | (p, .failed e) => (⟨p.dropReader, true⟩, .failed e)

def step (s : PipeStream) : StreamEvent → PipeStream × StreamReply
  | .writer m =>
    let (p, r) := s.pipe.step m.event
    ({ s with pipe := p }, .writer r)
  | .next =>
    let (s, answer) := s.next
    (s, .next answer)

def run (s : PipeStream) : List StreamEvent → PipeStream × List (StreamEvent × StreamReply)
  | [] => (s, [])
  | e :: es =>
    let (s', r) := s.step e
    let (s'', trace) := s'.run es
    (s'', (e, r) :: trace)

variable {s : PipeStream}

theorem next_over (h : s.isOver = true) : s.next = (s, .ended) := by
  simp [next, h]

theorem next_buffered (h : s.isOver = false) (hb : s.pipe.buffer ≠ []) :
    s.next = ({ s with pipe := s.pipe.release s.pipe.capacity }, .chunk s.pipe.buffer) := by
  simp [next, h, Pipe.pull_buffered hb]

theorem next_shut (h : s.isOver = false) (hb : s.pipe.buffer = []) (hs : s.pipe.shut = true) :
    s.next = (⟨s.pipe.dropReader, true⟩, .ended) := by
  simp [next, h, Pipe.pull_shut hb hs]

theorem next_cut (h : s.isOver = false) (hb : s.pipe.buffer = []) (hs : s.pipe.shut = false)
    (hw : s.pipe.writerGone = true) :
    s.next = (⟨s.pipe.dropReader, true⟩, .failed .truncated) := by
  simp [next, h, Pipe.pull_cut hb hs hw]

theorem next_open (h : s.isOver = false) (hb : s.pipe.buffer = []) (hs : s.pipe.shut = false)
    (hw : s.pipe.writerGone = false) : s.next = (s, .pending) := by
  simp [next, h, Pipe.pull_open hb hs hw]

end PipeStream

end EndpointClient
