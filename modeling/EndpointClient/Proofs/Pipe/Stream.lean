import EndpointClient.Pipe.Stream
import EndpointClient.Proofs.Pipe.Ending

/-!
# EndpointClient.Proofs.Pipe.Stream

What a stream of chunks yields, whatever its writer does meanwhile.

* `PipeStream.Change s e s' r` has a case for everything that can come of the event `e`.
  `step_change`: whatever comes of an event is one of these.
* `yielded trace` is what the stream has yielded in a run, `chunks trace` the chunks among that.
  `books_run`: the chunks, and what is buffered after them, are what the pipe has taken.
* `yielded_run`: a stream yields chunks, then the end or a failure, and nothing after that.
* `remaining` is what a stream has still to yield once its pipe is closed. `closed_run`: it yields
  that and nothing else.
* `chunks_of_any_schedule`: all of this from the beginning of a pipe on.
-/

namespace EndpointClient

open PipeEvent (ShutInTime)

theorem WriterMove.byReader_event (m : WriterMove) : m.event.byReader = false := by
  cases m <;> rfl

namespace StreamEvent

/-- What the writer does among other events. -/
def move? : StreamEvent → Option PipeEvent
  | .writer m => some m.event
  | .next => none

def writing (es : List StreamEvent) : List PipeEvent := es.filterMap move?

/-- How often the next chunk is asked for. -/
def polls (es : List StreamEvent) : Nat := es.count .next

def accepted : StreamEvent → StreamReply → Bytes
  | .writer m, .writer r => m.event.accepted r
  | _, _ => []

end StreamEvent

def Pull.chunk? : Pull → Option Bytes
  | .chunk bs => some bs
  | _ => none

/-- What a stream yields. It yields nothing when it has to wait. -/
def StreamReply.yield? : StreamReply → Option Pull
  | .writer _ => none
  | .next .pending => none
  | .next answer => some answer

namespace PipeStream

open StreamEvent (writing polls)

variable {s s' : PipeStream} {e : StreamEvent} {r : StreamReply}

/-! ## Changes -/

inductive Change (s : PipeStream) : StreamEvent → PipeStream → StreamReply → Prop where
  | writer {m : WriterMove} {p : Pipe} {r : PipeReply} (hc : s.pipe.Change m.event p r) :
      Change s (.writer m) { s with pipe := p } (.writer r)
  | chunk (ho : s.isOver = false) (hb : s.pipe.buffer ≠ []) :
      Change s .next { s with pipe := s.pipe.release s.pipe.capacity }
        (.next (.chunk s.pipe.buffer))
  | ended (ho : s.isOver = false) (hb : s.pipe.buffer = []) (hs : s.pipe.shut = true) :
      Change s .next ⟨s.pipe.dropReader, true⟩ (.next .ended)
  | cut (ho : s.isOver = false) (hb : s.pipe.buffer = []) (hs : s.pipe.shut = false)
      (hw : s.pipe.writerGone = true) :
      Change s .next ⟨s.pipe.dropReader, true⟩ (.next (.failed .truncated))
  | waits (ho : s.isOver = false) (hb : s.pipe.buffer = []) (hc : s.pipe.closed = false) :
      Change s .next s (.next .pending)
  | after (ho : s.isOver = true) : Change s .next s (.next .ended)

theorem next_change (s : PipeStream) : s.Change .next s.next.1 (.next s.next.2) := by
  cases ho : s.isOver with
  | true =>
    rw [next_over ho]
    exact .after ho
  | false =>
    by_cases hb : s.pipe.buffer = []
    · cases hs : s.pipe.shut with
      | true =>
        rw [next_shut ho hb hs]
        exact .ended ho hb hs
      | false =>
        cases hw : s.pipe.writerGone with
        | true =>
          rw [next_cut ho hb hs hw]
          exact .cut ho hb hs hw
        | false =>
          rw [next_open ho hb hs hw]
          exact .waits ho hb (by simp [Pipe.closed, hs, hw])
    · rw [next_buffered ho hb]
      exact .chunk ho hb

theorem step_change (s : PipeStream) (e : StreamEvent) : s.Change e (s.step e).1 (s.step e).2 := by
  cases e with
  | writer m => exact .writer (s.pipe.step_change m.event)
  | next => exact s.next_change

/-! ## Books -/

def accepted (trace : List (StreamEvent × StreamReply)) : Bytes :=
  trace.flatMap fun u => u.1.accepted u.2

def yielded (trace : List (StreamEvent × StreamReply)) : List Pull :=
  trace.filterMap fun u => u.2.yield?

def chunks (trace : List (StreamEvent × StreamReply)) : List Bytes :=
  (yielded trace).filterMap Pull.chunk?

theorem run_cons (s : PipeStream) (e : StreamEvent) (es : List StreamEvent) :
    s.run (e :: es) =
      (((s.step e).1.run es).1, (e, (s.step e).2) :: ((s.step e).1.run es).2) := rfl

theorem accepted_cons (u : StreamEvent × StreamReply)
    (trace : List (StreamEvent × StreamReply)) :
    accepted (u :: trace) = u.1.accepted u.2 ++ accepted trace := rfl

/-- The chunk that comes of an event. -/
def chunkOf (r : StreamReply) : Bytes := (r.yield?.bind Pull.chunk?).getD []

theorem flatten_chunks_cons (u : StreamEvent × StreamReply)
    (trace : List (StreamEvent × StreamReply)) :
    (chunks (u :: trace)).flatten = chunkOf u.2 ++ (chunks trace).flatten := by
  obtain ⟨e, r⟩ := u
  cases r with
  | writer r => rfl
  | next answer => cases answer <;> rfl

theorem Change.books (hc : s.Change e s' r) :
    chunkOf r ++ s'.pipe.buffer = s.pipe.buffer ++ e.accepted r := by
  cases hc with
  | @writer m p r hc =>
    have hnone : m.event.handedOut r = [] := by cases m <;> rfl
    have hbooks := hc.books
    rw [hnone] at hbooks
    exact hbooks
  | chunk => simp [chunkOf, StreamReply.yield?, Pull.chunk?, StreamEvent.accepted]
  | ended ho hb | cut ho hb =>
    simp [chunkOf, StreamReply.yield?, Pull.chunk?, StreamEvent.accepted, hb]
  | waits | after => simp [chunkOf, StreamReply.yield?, Pull.chunk?, StreamEvent.accepted]

/-- The chunks, and what is buffered after them, are what was buffered and taken. -/
theorem books_run (s : PipeStream) (es : List StreamEvent) :
    (chunks (s.run es).2).flatten ++ (s.run es).1.pipe.buffer =
      s.pipe.buffer ++ accepted (s.run es).2 := by
  induction es generalizing s with
  | nil => simp [run, chunks, yielded, accepted]
  | cons e es ih =>
    have hstep := (s.step_change e).books
    have hrest := ih (s.step e).1
    rw [run_cons, flatten_chunks_cons, accepted_cons, List.append_assoc, hrest,
      ← List.append_assoc, hstep, List.append_assoc]

/-! ## What the state tells of a run -/

theorem Change.capacity (hc : s.Change e s' r) : s'.pipe.capacity = s.pipe.capacity := by
  cases hc with
  | writer hc => exact hc.capacity
  | chunk | ended | cut | waits | after => rfl

/-- A chunk is what is buffered, which is as much as the pipe can hold at most. -/
theorem Change.chunk_fits (hc : s.Change e s' r) {bs : Bytes}
    (h : r.yield? = some (.chunk bs)) : bs ≠ [] ∧ bs.length ≤ s.pipe.capacity := by
  cases hc with
  | chunk ho hb =>
    cases h
    exact ⟨hb, s.pipe.fits⟩
  | writer | ended | cut | waits | after => cases h

theorem mem_chunks {bs : Bytes} {trace : List (StreamEvent × StreamReply)} :
    bs ∈ chunks trace ↔ .chunk bs ∈ yielded trace := by
  rw [chunks, List.mem_filterMap]
  constructor
  · rintro ⟨y, hy, hbs⟩
    cases y with
    | chunk bs' =>
      cases hbs
      exact hy
    | ended | pending | failed e => cases hbs
  · intro hmem
    exact ⟨.chunk bs, hmem, rfl⟩

theorem yielded_cons (u : StreamEvent × StreamReply)
    (trace : List (StreamEvent × StreamReply)) :
    yielded (u :: trace) = u.2.yield?.toList ++ yielded trace := by
  rw [yielded, List.filterMap_cons, ← yielded]
  cases u.2.yield? <;> rfl

theorem chunks_fit (s : PipeStream) (es : List StreamEvent) {bs : Bytes}
    (h : bs ∈ chunks (s.run es).2) : bs ≠ [] ∧ bs.length ≤ s.pipe.capacity := by
  induction es generalizing s with
  | nil => cases h
  | cons e es ih =>
    have hc := s.step_change e
    rw [mem_chunks, run_cons, yielded_cons, List.mem_append, Option.mem_toList] at h
    rcases h with hnow | hlater
    · exact hc.chunk_fits hnow
    · rw [← hc.capacity]
      exact ih _ (mem_chunks.2 hlater)

theorem Change.writerGone_iff (hc : s.Change e s' r) :
    s'.pipe.writerGone = true ↔ s.pipe.writerGone = true ∨ e.move? = some .dropWriter := by
  cases hc with
  | writer hc => simpa [StreamEvent.move?] using hc.writerGone_iff
  | chunk | ended | cut | waits | after =>
    simp [StreamEvent.move?, Pipe.release, Pipe.dropReader]

theorem writerGone_run (s : PipeStream) (es : List StreamEvent) :
    (s.run es).1.pipe.writerGone = true ↔
      s.pipe.writerGone = true ∨ .dropWriter ∈ writing es := by
  induction es generalizing s with
  | nil => simp [run, writing]
  | cons e es ih =>
    rw [run_cons, ih, (s.step_change e).writerGone_iff, or_assoc]
    simp [writing, List.mem_filterMap]

theorem Change.shut_iff (hc : s.Change e s' r) :
    s'.pipe.shut = true ↔
      s.pipe.shut = true ∨ s.pipe.writerGone = false ∧ e.move? = some .shutdown := by
  cases hc with
  | writer hc => simpa [StreamEvent.move?] using hc.shut_iff
  | chunk | ended | cut | waits | after =>
    simp [StreamEvent.move?, Pipe.release, Pipe.dropReader]

theorem shutInTime_writing_cons (e : StreamEvent) (es : List StreamEvent) :
    ShutInTime (writing (e :: es)) ↔
      e.move? = some .shutdown ∨ e.move? ≠ some .dropWriter ∧ ShutInTime (writing es) := by
  cases e with
  | writer m =>
    have hcons : writing (.writer m :: es) = m.event :: writing es := rfl
    simpa [StreamEvent.move?, hcons] using Pipe.shutInTime_cons m.event (writing es)
  | next =>
    have hcons : writing (.next :: es) = writing es := rfl
    simp [StreamEvent.move?, hcons]

theorem shut_run (s : PipeStream) (es : List StreamEvent) :
    (s.run es).1.pipe.shut = true ↔
      s.pipe.shut = true ∨ s.pipe.writerGone = false ∧ ShutInTime (writing es) := by
  induction es generalizing s with
  | nil => simp [run, writing, ShutInTime]
  | cons e es ih =>
    -- a shutdown later on counts only if this event has not dropped the writer
    have hgone := (s.step_change e).writerGone_iff
    rw [run_cons, ih, (s.step_change e).shut_iff, shutInTime_writing_cons]
    grind

/-! ## Once the writer is done -/

/-- How a body ends that was closed: at its end, or with the failure of one that was cut. -/
def ending (s : PipeStream) : Pull := if s.pipe.shut then .ended else .failed .truncated

/-- The chunk that is left once nothing more comes. -/
def rest (s : PipeStream) : List Pull :=
  if s.pipe.buffer = [] then [] else [.chunk s.pipe.buffer]

/-- What a stream has still to yield once its pipe is closed, before it yields nothing but its end:
what is buffered, and the failure of a body that was cut. -/
def remaining (s : PipeStream) : List Pull :=
  if s.isOver then [] else s.rest ++ if s.pipe.shut then [] else [.failed .truncated]

/-- What is yielded when the next chunk is asked for so many times, and `ys` is still to come. -/
def inTurn (ys : List Pull) (polls : Nat) : List Pull :=
  (ys ++ List.replicate polls Pull.ended).take polls

theorem remaining_of_over (h : s.isOver = true) : s.remaining = [] := if_pos h

theorem head_remaining_ne_pending (s : PipeStream) : s.remaining.headD .ended ≠ .pending := by
  unfold remaining rest
  grind

theorem Change.closed_next {answer : Pull} (hc : s.Change .next s' (.next answer))
    (h : s.pipe.closed = true) :
    s'.pipe.closed = true ∧ answer = s.remaining.headD .ended ∧
      s'.remaining = s.remaining.tail := by
  cases hc with
  | chunk ho hb =>
    refine ⟨h, ?_, ?_⟩
    · simp [remaining, rest, ho, hb]
    · simp only [remaining, rest, ho, hb, Pipe.buffer_release_capacity]
      rfl
  | ended ho hb hs =>
    have hnone : s.remaining = [] := by simp [remaining, rest, hb, hs]
    rw [hnone]
    exact ⟨h, rfl, remaining_of_over rfl⟩
  | cut ho hb hs hw =>
    have hfailure : s.remaining = [.failed .truncated] := by simp [remaining, rest, ho, hb, hs]
    rw [hfailure]
    exact ⟨h, rfl, remaining_of_over rfl⟩
  | waits ho hb hc => cases hc.symm.trans h
  | after ho =>
    rw [remaining_of_over ho]
    exact ⟨h, rfl, rfl⟩

theorem inTurn_succ (ys : List Pull) (k : Nat) :
    inTurn ys (k + 1) = ys.headD .ended :: inTurn ys.tail k := by
  cases ys with
  | nil => simp [inTurn, List.replicate_succ]
  | cons y ys =>
    simp only [inTurn, List.cons_append, List.take_succ_cons, List.headD_cons, List.tail_cons,
      List.take_append, List.take_replicate]
    congr 3
    omega

theorem inTurn_nil (k : Nat) : inTurn [] k = List.replicate k .ended := by
  rw [inTurn, List.nil_append, List.take_replicate, Nat.min_self]

theorem closed_run (h : s.pipe.closed = true) (es : List StreamEvent) :
    accepted (s.run es).2 = [] ∧ yielded (s.run es).2 = inTurn s.remaining (polls es) := by
  induction es generalizing s with
  | nil => exact ⟨rfl, by simp [polls, run, yielded, inTurn]⟩
  | cons e es ih =>
    cases e with
    | writer m =>
      obtain ⟨hclosed, hbuffer, hshut, hnothing⟩ :=
        (s.pipe.step_change m.event).closed_writer m.byReader_event h
      obtain ⟨haccepted, hyielded⟩ := ih (s := (s.step (.writer m)).1) hclosed
      have hremaining : (s.step (.writer m)).1.remaining = s.remaining := by
        simp only [remaining, rest, step, hbuffer, hshut]
      have hpolls : polls (.writer m :: es) = polls es := by simp [polls]
      rw [hpolls, ← hremaining, ← hyielded]
      refine ⟨?_, rfl⟩
      rw [run_cons, accepted_cons, haccepted, List.append_nil]
      exact hnothing
    | next =>
      obtain ⟨hclosed, hanswer, hremaining⟩ := s.next_change.closed_next h
      obtain ⟨haccepted, hyielded⟩ := ih (s := s.next.1) hclosed
      have hpolls : polls (.next :: es) = polls es + 1 := by simp [polls]
      refine ⟨haccepted, ?_⟩
      have hyield : (StreamReply.next s.next.2).yield?.toList = [s.next.2] := by
        have hne : s.next.2 ≠ .pending := hanswer ▸ s.head_remaining_ne_pending
        cases hs : s.next.2 with
        | pending => exact absurd hs hne
        | chunk bs | ended | failed e => rfl
      rw [run_cons, yielded_cons, hpolls, inTurn_succ, ← hremaining, ← hanswer, ← hyielded]
      exact congrArg (· ++ _) hyield

/-! ## The order of what is yielded -/

/-- A stream that is over stays so, and so does its pipe. -/
theorem Change.over_kept (hc : s.Change e s' r) (ho : s.isOver = true) (h : s.pipe.closed = true) :
    s'.isOver = true ∧ s'.pipe.closed = true ∧ s'.pipe.buffer = s.pipe.buffer ∧
      s'.ending = s.ending := by
  cases hc with
  | @writer m p r hc =>
    obtain ⟨hclosed, hbuffer, hshut, -⟩ := hc.closed_writer m.byReader_event h
    exact ⟨ho, hclosed, hbuffer, by simp only [ending, hshut]⟩
  | after => exact ⟨ho, h, rfl, rfl⟩
  | chunk ho' | ended ho' | cut ho' | waits ho' => cases ho'.symm.trans ho

theorem over_run (ho : s.isOver = true) (h : s.pipe.closed = true) (es : List StreamEvent) :
    (s.run es).1.isOver = true ∧ (s.run es).1.pipe.closed = true ∧
      (s.run es).1.pipe.buffer = s.pipe.buffer ∧ (s.run es).1.ending = s.ending := by
  induction es generalizing s with
  | nil => exact ⟨ho, h, rfl, rfl⟩
  | cons e es ih =>
    obtain ⟨ho', h', hbuffer, hending⟩ := (s.step_change e).over_kept ho h
    obtain ⟨ho'', h'', hbuffer', hending'⟩ := ih ho' h'
    exact ⟨ho'', h'', hbuffer'.trans hbuffer, hending'.trans hending⟩

/-- What a stream has yielded so far, and how it stands then: chunks, and when it is over, how its
body ended, and nothing but its end after that. -/
inductive Told (s : PipeStream) : List Pull → Prop where
  | ongoing (cs : List Bytes) (ho : s.isOver = false) : Told s (cs.map .chunk)
  | ended (cs : List Bytes) (j : Nat) (ho : s.isOver = true) (hc : s.pipe.closed = true)
      (hb : s.pipe.buffer = []) : Told s (cs.map .chunk ++ s.ending :: List.replicate j .ended)

theorem Told.chunk {ys : List Pull} (h : s.Told ys) (bs : Bytes) : s.Told (.chunk bs :: ys) := by
  cases h with
  | ongoing cs ho => exact .ongoing (bs :: cs) ho
  | ended cs j ho hc hb => exact .ended (bs :: cs) j ho hc hb

/-- A stream that has just come to an end yields nothing but that from then on. -/
theorem told_over (ho : s.isOver = true) (h : s.pipe.closed = true) (hb : s.pipe.buffer = [])
    (es : List StreamEvent) : (s.run es).1.Told (s.ending :: yielded (s.run es).2) := by
  obtain ⟨ho', h', hbuffer, hending⟩ := over_run ho h es
  have hyielded : yielded (s.run es).2 = List.replicate (polls es) .ended := by
    rw [(closed_run h es).2, remaining_of_over ho, inTurn_nil]
  rw [hyielded, ← hending]
  exact .ended [] (polls es) ho' h' (hbuffer.trans hb)

/-- A stream yields chunks, then how its body ended, and nothing after that. -/
theorem yielded_run (ho : s.isOver = false) (es : List StreamEvent) :
    (s.run es).1.Told (yielded (s.run es).2) := by
  induction es generalizing s with
  | nil => exact .ongoing [] ho
  | cons e es ih =>
    rw [run_cons, yielded_cons]
    have hc := s.step_change e
    generalize (s.step e).1 = s', (s.step e).2 = r at hc ⊢
    cases hc with
    | writer hc => exact ih ho
    | chunk =>
      have htold := ih (s := { s with pipe := s.pipe.release s.pipe.capacity }) ho
      exact htold.chunk s.pipe.buffer
    | waits => exact ih ho
    | after ho' => cases ho.symm.trans ho'
    | ended _ hb hs =>
      have hending : (⟨s.pipe.dropReader, true⟩ : PipeStream).ending = .ended := if_pos hs
      have htold := told_over (s := ⟨s.pipe.dropReader, true⟩) rfl
        (by simp [Pipe.closed, Pipe.dropReader, hs]) hb es
      rw [hending] at htold
      exact htold
    | cut _ hb hs hw =>
      have hending : (⟨s.pipe.dropReader, true⟩ : PipeStream).ending = .failed .truncated :=
        if_neg (by simp [Pipe.dropReader, hs])
      have htold := told_over (s := ⟨s.pipe.dropReader, true⟩) rfl
        (by simp [Pipe.closed, Pipe.dropReader, hw]) hb es
      rw [hending] at htold
      exact htold

theorem Told.chunks_eq {ys : List Pull} (h : s.Told ys) :
    s.isOver = false ∧ ys = (ys.filterMap Pull.chunk?).map .chunk ∨
      s.isOver = true ∧ s.pipe.closed = true ∧ s.pipe.buffer = [] ∧ ∃ j,
        ys = (ys.filterMap Pull.chunk?).map .chunk ++ s.ending :: List.replicate j .ended := by
  have hchunks (cs : List Bytes) : (cs.map Pull.chunk).filterMap Pull.chunk? = cs := by
    rw [List.filterMap_map]
    exact List.filterMap_some
  cases h with
  | ongoing cs ho => exact .inl ⟨ho, by rw [hchunks]⟩
  | ended cs j ho hc hb =>
    have hending : s.ending.chunk? = none := by
      unfold ending
      split <;> rfl
    have hnone : (s.ending :: List.replicate j Pull.ended).filterMap Pull.chunk? = [] := by
      rw [List.filterMap_cons_none hending]
      simp [Pull.chunk?]
    exact .inr ⟨ho, hc, hb, j, by rw [List.filterMap_append, hchunks, hnone, List.append_nil]⟩

/-- **A body in chunks.** Let a writer write, flush, close the pipe and go away as it likes, and let
the reader be asked for the next chunk in between, as often as it may be. No chunk is empty or longer
than `max c 1` bytes. The chunks so far, and what is buffered after them, are the bytes that were
taken. What was yielded so far is those chunks, and when the stream is over, all bytes were in them,
and there is one thing more: the end if the writer closed the pipe in time, else the failure
`UnexpectedEof`. Nothing but the end comes after that.

Once the writer has closed the pipe or is gone, nothing more is taken. What is buffered then comes
next, after that the failure if the body was cut, and then the end as often as the stream is asked.
It does not have to wait any more. -/
theorem chunks_of_any_schedule (c : Nat) (es : List StreamEvent) :
    let s := ((PipeStream.mk (.new c) false).run es).1
    let trace := ((PipeStream.mk (.new c) false).run es).2
    (∀ bs ∈ chunks trace, bs ≠ [] ∧ bs.length ≤ max c 1) ∧
    (chunks trace).flatten ++ s.pipe.buffer = accepted trace ∧
    (s.isOver = false ∧ yielded trace = (chunks trace).map .chunk ∨
      s.isOver = true ∧ (chunks trace).flatten = accepted trace ∧ ∃ last j,
        yielded trace = (chunks trace).map .chunk ++ last :: List.replicate j .ended ∧
          (last = .ended ∧ ShutInTime (writing es) ∨
            last = .failed .truncated ∧ IoError.truncated.kind = .unexpectedEof ∧
              .dropWriter ∈ writing es ∧ ¬ ShutInTime (writing es))) ∧
    (ShutInTime (writing es) → ∀ es', accepted (s.run es').2 = [] ∧
      yielded (s.run es').2 = inTurn s.rest (polls es')) ∧
    (.dropWriter ∈ writing es → ¬ ShutInTime (writing es) → ∀ es', accepted (s.run es').2 = [] ∧
      yielded (s.run es').2 =
        inTurn (if s.isOver then [] else s.rest ++ [.failed .truncated]) (polls es')) := by
  intro s trace
  have hbooks : (chunks trace).flatten ++ s.pipe.buffer = accepted trace := books_run _ es
  have hshut : s.pipe.shut = true ↔ ShutInTime (writing es) := by
    rw [shut_run]
    simp
  have hgone : s.pipe.writerGone = true ↔ .dropWriter ∈ writing es := by
    rw [writerGone_run]
    simp
  have htold : s.Told (yielded trace) := yielded_run rfl es
  refine ⟨fun bs hbs => chunks_fit _ es hbs, hbooks, ?_, fun hs es' => ?_, fun hw hs es' => ?_⟩
  · rcases htold.chunks_eq with hopen | ⟨ho, hc, hb, j, hyielded⟩
    · exact .inl hopen
    · refine .inr ⟨ho, ?_, s.ending, j, hyielded, ?_⟩
      · rw [← hbooks, hb, List.append_nil]
      · by_cases hs : s.pipe.shut = true
        · exact .inl ⟨if_pos hs, hshut.1 hs⟩
        · have hw : s.pipe.writerGone = true := by simpa [Pipe.closed, hs] using hc
          exact .inr ⟨if_neg hs, rfl, hgone.1 hw, fun h => hs (hshut.2 h)⟩
  · rw [← hshut] at hs
    have hremaining : s.remaining = s.rest := by
      rcases htold.chunks_eq with ⟨ho, -⟩ | ⟨ho, -, hb, -⟩
      · simp [remaining, ho, hs]
      · simp [remaining, rest, ho, hb]
    rw [← hremaining]
    exact closed_run (by simp [Pipe.closed, hs]) es'
  · rw [← hshut] at hs
    rw [← hgone] at hw
    have hremaining : s.remaining = if s.isOver then [] else s.rest ++ [.failed .truncated] := by
      simp [remaining, hs]
    rw [← hremaining]
    exact closed_run (by simp [Pipe.closed, hw]) es'

/-- The writer goes away without closing the pipe. -/
example :
    yielded ((PipeStream.mk (.new 2) false).run [.next, .writer (.write [1, 2, 3]), .next,
      .writer (.write [3]), .writer .drop, .next, .next, .next]).2 =
      [.chunk [1, 2], .chunk [3], .failed .truncated, .ended] := by
  decide

end PipeStream
end EndpointClient
