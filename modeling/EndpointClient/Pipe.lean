import EndpointClient.IoError
import EndpointClient.Text.Utf8

/-!
# EndpointClient.Pipe

A bounded pipe of bytes between one writer and one reader. Nothing here waits: an attempt that
cannot go on now answers `pending` and changes nothing.

* A writer that goes away without `shutdown` leaves a truncated body behind: the reader is told so
  and never sees a clean end.
* `Pipe.write` takes the longest part that fits, `Pipe.read` gives the longest part that is there.
* `Pipe.readInto` reads behind what a buffer already holds. It knows the end of a body by its buffer
  being as full as before, and tells a complete body from a truncated one by `shut`.
* `Pipe.pull` reads a whole buffer, the way a body is read chunk by chunk.
* `Pipe.step` is all that happens to a pipe as events, `Pipe.run` a run through them.

Each attempt has one lemma for each thing that can come of it (`write_refused`, `write_full`,
`write_room`, `readInto_noRoom`, `readInto_buffered`, `readInto_shut`, `readInto_cut`,
`readInto_open`, `pull_buffered`, `pull_shut`, `pull_cut`, `pull_open`).
-/

namespace EndpointClient

/-- A pipe. It is shut once its writer has closed it. -/
structure Pipe where
  capacity : Nat
  buffer : Bytes
  shut : Bool
  writerGone : Bool
  readerGone : Bool
  capacity_pos : 0 < capacity
  fits : buffer.length ≤ capacity
  deriving DecidableEq, Repr

inductive WriteAttempt where
  | took (n : Nat)
  | pending
  | failed (e : IoError)
  deriving DecidableEq, Repr

/-- What comes of an attempt to read. No bytes into free space are a clean end. -/
inductive ReadAttempt where
  | gave (bs : Bytes)
  | pending
  | failed (e : IoError)
  deriving DecidableEq, Repr

/-- A buffer that is read into: what is filled of it, and how many bytes are free behind that. -/
structure ReadBuffer where
  filled : Bytes
  free : Nat
  deriving DecidableEq, Repr

/-- Bytes go behind what is filled. -/
def ReadBuffer.put (b : ReadBuffer) (bs : Bytes) : ReadBuffer :=
  ⟨b.filled ++ bs, b.free - bs.length⟩

inductive ReadVerdict where
  | done
  | pending
  | failed (e : IoError)
  deriving DecidableEq, Repr

inductive Pull where
  | chunk (bs : Bytes)
  | ended
  | pending
  | failed (e : IoError)
  deriving DecidableEq, Repr

/-- What happens to a pipe: its writer tries to write, flushes, closes the pipe or goes away; its
reader tries to read into a buffer, or goes away. -/
inductive PipeEvent where
  | write (bs : Bytes)
  | flush
  | shutdown
  | dropWriter
  | read (b : ReadBuffer)
  | dropReader
  deriving DecidableEq, Repr

inductive PipeReply where
  | wrote (a : WriteAttempt)
  | read (b : ReadBuffer) (v : ReadVerdict)
  | done
  | gone
  deriving DecidableEq, Repr

namespace PipeEvent

/-- The bytes that a pipe takes in an event. -/
def accepted : PipeEvent → PipeReply → Bytes
  | .write bs, .wrote (.took n) => bs.take n
  | _, _ => []

/-- The bytes that it hands out: those behind what was filled before. -/
def handedOut : PipeEvent → PipeReply → Bytes
  | .read b, .read b' _ => b'.filled.drop b.filled.length
  | _, _ => []

end PipeEvent

namespace Pipe

/-- The capacity of a pipe for which none is given. -/
def defaultCapacity : Nat := 8192

/-- An empty pipe. It holds one byte at least. -/
def new (capacity : Nat) : Pipe where
  capacity := max capacity 1
  buffer := []
  shut := false
  writerGone := false
  readerGone := false
  capacity_pos := by omega
  fits := by simp

/-- No writing any more: the reader is gone, or the writer has closed the pipe. -/
def refuses (p : Pipe) : Bool := p.readerGone || p.shut || p.writerGone

def closed (p : Pipe) : Bool := p.shut || p.writerGone

def room (p : Pipe) : Nat := p.capacity - p.buffer.length

def accept (p : Pipe) (bs : Bytes) : Pipe :=
  { p with
    buffer := p.buffer ++ bs.take p.room
    fits := by
      have := p.fits
      simp only [room, List.length_append, List.length_take]
      omega }

def release (p : Pipe) (n : Nat) : Pipe :=
  { p with
    buffer := p.buffer.drop n
    fits := by
      have := p.fits
      simp only [List.length_drop]
      omega }

def write (p : Pipe) (bs : Bytes) : Pipe × WriteAttempt :=
  if p.refuses then (p, .failed .broken)
  else if bs.isEmpty then (p, .took 0)
  else
    let n := p.room
    if n = 0 then (p, .pending)
    else (p.accept bs, .took (bs.take n).length)

/-- Closes the pipe: what is buffered is the rest of a complete body. -/
def shutdown (p : Pipe) : Pipe := { p with shut := true }

def dropWriter (p : Pipe) : Pipe := { p with writerGone := true }

def dropReader (p : Pipe) : Pipe := { p with readerGone := true }

def read (p : Pipe) (size : Nat) : Pipe × ReadAttempt :=
  if size = 0 then (p, .gave [])
  else if p.buffer.isEmpty then
    if p.shut then (p, .gave [])
    else if p.writerGone then (p, .failed .truncated)
    else (p, .pending)
  else (p.release size, .gave (p.buffer.take size))

/-- What is buffered goes into the free part of a buffer. There is nothing to wait for if no byte is
free, or if no more bytes can come. -/
def fill (p : Pipe) (b : ReadBuffer) : Option (Pipe × ReadBuffer) :=
  if b.free = 0 then some (p, b)
  else if p.buffer.isEmpty && !p.closed then none
  else some (p.release b.free, b.put (p.buffer.take b.free))

/-- Tries to read into a buffer. If that is no fuller than before, although there is room in it, the
body is at its end, and it is a complete one only if the pipe was shut. -/
def readInto (p : Pipe) (b : ReadBuffer) : Pipe × ReadBuffer × ReadVerdict :=
  match p.fill b with
  | none => (p, b, .pending)
  | some (p', b') =>
    let atEnd := b'.filled.length = b.filled.length ∧ 0 < b'.free
    if atEnd ∧ p'.shut = false then (p', b', .failed .truncated) else (p', b', .done)

/-- Tries to read the next chunk, which is all that is buffered. -/
def pull (p : Pipe) : Pipe × Pull :=
  match p.read p.capacity with
  | (p', .gave []) => (p', .ended)
  | (p', .gave bs) => (p', .chunk bs)
  | (p', .pending) => (p', .pending)
  | (p', .failed e) => (p', .failed e)

def step (p : Pipe) : PipeEvent → Pipe × PipeReply
  | .write bs =>
    if p.writerGone then (p, .gone)
    else
      let (p', a) := p.write bs
      (p', .wrote a)
  | .flush => (p, if p.writerGone then .gone else .done)
  | .shutdown => if p.writerGone then (p, .gone) else (p.shutdown, .done)
  | .dropWriter => if p.writerGone then (p, .gone) else (p.dropWriter, .done)
  | .read b =>
    if p.readerGone then (p, .gone)
    else
      let (p', b', v) := p.readInto b
      (p', .read b' v)
  | .dropReader => if p.readerGone then (p, .gone) else (p.dropReader, .done)

def run (p : Pipe) : List PipeEvent → Pipe × List (PipeEvent × PipeReply)
  | [] => (p, [])
  | e :: es =>
    let (p', r) := p.step e
    let (p'', trace) := p'.run es
    (p'', (e, r) :: trace)

@[simp] theorem buffer_new (c : Nat) : (new c).buffer = [] := rfl
@[simp] theorem shut_new (c : Nat) : (new c).shut = false := rfl
@[simp] theorem writerGone_new (c : Nat) : (new c).writerGone = false := rfl
@[simp] theorem readerGone_new (c : Nat) : (new c).readerGone = false := rfl

@[simp] theorem buffer_accept (p : Pipe) (bs : Bytes) :
    (p.accept bs).buffer = p.buffer ++ bs.take p.room := rfl
@[simp] theorem buffer_shutdown (p : Pipe) : p.shutdown.buffer = p.buffer := rfl
@[simp] theorem buffer_dropWriter (p : Pipe) : p.dropWriter.buffer = p.buffer := rfl
@[simp] theorem buffer_dropReader (p : Pipe) : p.dropReader.buffer = p.buffer := rfl

@[simp] theorem readerGone_release (p : Pipe) (n : Nat) :
    (p.release n).readerGone = p.readerGone := rfl
@[simp] theorem readerGone_dropReader (p : Pipe) : p.dropReader.readerGone = true := rfl

@[simp] theorem buffer_release_capacity (p : Pipe) : (p.release p.capacity).buffer = [] :=
  List.drop_eq_nil_of_le p.fits

theorem write_refused {p : Pipe} (h : p.refuses = true) (bs : Bytes) :
    p.write bs = (p, .failed .broken) := by
  simp [write, h]

theorem write_full {p : Pipe} (h : p.refuses = false) (hr : p.room = 0) {bs : Bytes}
    (hb : bs ≠ []) : p.write bs = (p, .pending) := by
  simp [write, h, hr, hb]

theorem write_room {p : Pipe} (h : p.refuses = false) (hr : 0 < p.room) {bs : Bytes}
    (hb : bs ≠ []) : p.write bs = (p.accept bs, .took (bs.take p.room).length) := by
  simp [write, h, hb, Nat.ne_of_gt hr]

theorem readInto_noRoom {b : ReadBuffer} (h : b.free = 0) (p : Pipe) :
    p.readInto b = (p, b, .done) := by
  simp [readInto, fill, h]

theorem readInto_buffered {p : Pipe} {b : ReadBuffer} (hf : 0 < b.free) (h : p.buffer ≠ []) :
    p.readInto b = (p.release b.free, b.put (p.buffer.take b.free), .done) := by
  have hlength : 0 < p.buffer.length := List.length_pos_iff.2 h
  have hmore : (b.put (p.buffer.take b.free)).filled.length ≠ b.filled.length := by
    simp only [ReadBuffer.put, List.length_append, List.length_take]
    omega
  simp [readInto, fill, Nat.ne_of_gt hf, h, hmore]

theorem fill_empty {p : Pipe} {b : ReadBuffer} (hf : 0 < b.free) (h : p.buffer = [])
    (hc : p.closed = true) : p.fill b = some (p, b) := by
  obtain ⟨capacity, buffer, shut, writerGone, readerGone, hpos, hfits⟩ := p
  subst h
  simp [fill, Nat.ne_of_gt hf, hc, release, ReadBuffer.put]

theorem readInto_shut {p : Pipe} {b : ReadBuffer} (hf : 0 < b.free) (h : p.buffer = [])
    (hs : p.shut = true) : p.readInto b = (p, b, .done) := by
  simp [readInto, fill_empty hf h (by simp [closed, hs]), hs]

theorem readInto_cut {p : Pipe} {b : ReadBuffer} (hf : 0 < b.free) (h : p.buffer = [])
    (hs : p.shut = false) (hw : p.writerGone = true) :
    p.readInto b = (p, b, .failed .truncated) := by
  simp [readInto, fill_empty hf h (by simp [closed, hw]), hs, hf]

theorem readInto_open {p : Pipe} {b : ReadBuffer} (hf : 0 < b.free) (h : p.buffer = [])
    (hs : p.shut = false) (hw : p.writerGone = false) : p.readInto b = (p, b, .pending) := by
  simp [readInto, fill, closed, h, hs, hw, Nat.ne_of_gt hf]

/-- Reading into a buffer is reading as many bytes as are free in it. -/
theorem readInto_eq_read (p : Pipe) (b : ReadBuffer) :
    p.readInto b = match p.read b.free with
      | (p', .gave bs) => (p', b.put bs, .done)
      | (p', .pending) => (p', b, .pending)
      | (p', .failed e) => (p', b, .failed e) := by
  have hput : b.put [] = b := by simp [ReadBuffer.put]
  rcases Nat.eq_zero_or_pos b.free with h | hf
  · simp [readInto_noRoom h, read, h, hput]
  · have hne : b.free ≠ 0 := Nat.ne_of_gt hf
    by_cases hb : p.buffer = []
    · cases hs : p.shut with
      | true => simp [readInto_shut hf hb hs, read, hne, hb, hs, hput]
      | false =>
        cases hw : p.writerGone with
        | true => simp [readInto_cut hf hb hs hw, read, hne, hb, hs, hw]
        | false => simp [readInto_open hf hb hs hw, read, hne, hb, hs, hw]
    · simp [readInto_buffered hf hb, read, hne, hb]

theorem pull_buffered {p : Pipe} (h : p.buffer ≠ []) :
    p.pull = (p.release p.capacity, .chunk p.buffer) := by
  have htake : p.buffer.take p.capacity = p.buffer := List.take_of_length_le p.fits
  have hread : p.read p.capacity = (p.release p.capacity, .gave p.buffer) := by
    simp [read, h, htake, Nat.ne_of_gt p.capacity_pos]
  simp [pull, hread]

theorem pull_shut {p : Pipe} (h : p.buffer = []) (hs : p.shut = true) : p.pull = (p, .ended) := by
  simp [pull, read, h, hs, Nat.ne_of_gt p.capacity_pos]

theorem pull_cut {p : Pipe} (h : p.buffer = []) (hs : p.shut = false) (hw : p.writerGone = true) :
    p.pull = (p, .failed .truncated) := by
  simp [pull, read, h, hs, hw, Nat.ne_of_gt p.capacity_pos]

theorem pull_open {p : Pipe} (h : p.buffer = []) (hs : p.shut = false)
    (hw : p.writerGone = false) : p.pull = (p, .pending) := by
  simp [pull, read, h, hs, hw, Nat.ne_of_gt p.capacity_pos]

end Pipe

end EndpointClient
