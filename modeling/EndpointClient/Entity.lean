import EndpointClient.Http.Body

/-!
# EndpointClient.Entity

Entities of requests, and how one is written into a sink: its chunks in order, then one flush, then
one shutdown.

* `Delivery` is a writing under way. `Delivery.call?` is the next call on the sink, and
  `Delivery.reply` goes on with what the sink answered.
* `Delivery.run` writes to the end into a sink that answers at once.
* `EntitySlot` is the entity of a request together with the sink registered for it.
-/

namespace EndpointClient

open Http (Chunks)

/-- What a request carries: bytes known beforehand, or chunks that come one by one. -/
inductive Entity where
  | whole (bs : Bytes)
  | stream (chunks : Chunks)

def Entity.chunks : Entity → Chunks
  | .whole bs => [.ok bs]
  | .stream cs => cs

inductive SinkCall where
  | write (bs : Bytes)
  | flush
  | shutdown
  deriving DecidableEq, Repr

/-- What a sink answers: how much it took of a write, that a call is done, or a failure. -/
inductive SinkReply where
  | took (n : Nat)
  | done
  | failed (e : IoError)
  deriving DecidableEq, Repr

/-- The writing of an entity: bytes of the current chunk with the chunks to come, the flush, the
shutdown, and either end. -/
inductive Delivery where
  | writing (part : Bytes) (rest : Chunks)
  | flushing
  | closing
  | finished
  | failed (e : IoError)

namespace Delivery

/-- The writing of chunks. An empty chunk is passed over. -/
def ofChunks : Chunks → Delivery
  | [] => .flushing
  | .ok [] :: rest => ofChunks rest
  | .ok bs :: rest => .writing bs rest
  | .error e :: _ => .failed e

def start (e : Entity) : Delivery := ofChunks e.chunks

/-- The next call on the sink, unless the writing has come to an end. -/
def call? : Delivery → Option SinkCall
  | .writing part _ => some (.write part)
  | .flushing => some .flush
  | .closing => some .shutdown
  | .finished => none
  | .failed _ => none

/-- Goes on after a call. A sink that takes nothing of a write is a failure. -/
def reply : Delivery → SinkReply → Delivery
  | .writing part rest, .took n =>
    if n = 0 then .failed .tookNothing
    else
      match part.drop n with
      | [] => ofChunks rest
      | part' => .writing part' rest
  | .writing _ rest, .done => ofChunks rest
  | .flushing, .failed e => .failed e
  | .flushing, _ => .closing
  | .closing, .failed e => .failed e
  | .closing, _ => .finished
  | .writing _ _, .failed e => .failed e
  | .finished, _ => .finished
  | .failed e, _ => .failed e

def result? : Delivery → Option (Except IoError Unit)
  | .finished => some (.ok ())
  | .failed e => some (.error e)
  | _ => none

/-- What is left to do in chunks: their bytes, and one for each. -/
def chunksLeft : Chunks → Nat
  | [] => 0
  | .ok bs :: rest => bs.length + 1 + chunksLeft rest
  | .error _ :: rest => chunksLeft rest

/-- What is left to do. Each answer of the sink makes it less. -/
def left : Delivery → Nat
  | .writing part rest => 3 + part.length + chunksLeft rest
  | .flushing => 2
  | .closing => 1
  | .finished => 0
  | .failed _ => 0

theorem left_ofChunks_le (cs : Chunks) : (ofChunks cs).left ≤ 2 + chunksLeft cs := by
  fun_induction ofChunks cs with
  | case1 => simp [left]
  | case2 rest ih => simp only [chunksLeft]; omega
  | case3 bs rest => simp only [left, chunksLeft]; omega
  | case4 => simp [left]

theorem left_writing (part : Bytes) (rest : Chunks) :
    (writing part rest).left = 3 + part.length + chunksLeft rest := rfl

theorem left_reply_lt {d : Delivery} {c : SinkCall} (h : d.call? = some c) (r : SinkReply) :
    (d.reply r).left < d.left := by
  cases d with
  | writing part rest =>
    have hle := left_ofChunks_le rest
    rw [left_writing]
    cases r with
    | took n =>
      simp only [reply]
      split
      · exact Nat.lt_of_lt_of_le (by decide : left (failed IoError.tookNothing) < 3) (by omega)
      · split
        · omega
        · rename_i hne
          have hlen : n < part.length := by simpa using hne
          rw [left_writing, List.length_drop]
          omega
    | done => simp only [reply]; omega
    | failed e =>
      have : left (failed e) = 0 := rfl
      simp only [reply]
      omega
  | flushing => cases r <;> simp [reply, left]
  | closing => cases r <;> simp [reply, left]
  | finished => simp [call?] at h
  | failed e => simp [call?] at h

/-- Writes to the end into a sink that answers each call at once. -/
def run {σ : Type} (answer : σ → SinkCall → σ × SinkReply) (s : σ) (d : Delivery) :
    σ × Except IoError Unit :=
  match h : d.call? with
  | some c =>
    let (s', r) := answer s c
    have := left_reply_lt h r
    run answer s' (d.reply r)
  | none =>
    match d with
    | .failed e => (s, .error e)
    | _ => (s, .ok ())
termination_by d.left

end Delivery

/-- The entity of a request, and the sink registered for it. -/
structure EntitySlot (σ : Type) where
  entity : Option Entity
  sink : Option σ

namespace EntitySlot

/-- Registers a sink. One that was registered before is returned, to be dropped. -/
def setSink {σ : Type} (s : EntitySlot σ) (sink : σ) : EntitySlot σ × Option σ :=
  ({ s with sink := some sink }, s.sink)

/-- Writes the entity into the sink and leaves neither. Without an entity there is nothing to do;
without a sink the entity is given up. The sink comes back as the writing left it. -/
def write {σ : Type} (answer : σ → SinkCall → σ × SinkReply) (s : EntitySlot σ) :
    EntitySlot σ × Option σ × Except IoError Unit :=
  match s.entity with
  | none => (s, none, .ok ())
  | some e =>
    match s.sink with
    | none => ({ s with entity := none }, none, .error .noSink)
    | some sink =>
      let (sink', r) := Delivery.run answer sink (.start e)
      (⟨none, none⟩, some sink', r)

end EntitySlot

end EndpointClient
