import EndpointClient.Pipe

/-!
# EndpointClient.Proofs.Pipe.Fifo

A pipe is a bounded queue of bytes that loses none.

* `Pipe.Change p e pr` has a case for everything that can come of the event `e`, with all that it
  takes for it. `step_change`: whatever comes of an event is one of these.
* `accepted trace` and `handedOut trace` are the bytes that a pipe has taken and handed out in a run.
  `books_run`: what was handed out, and what is buffered after that, is what was taken.
* `readerGone_run`, `writerGone_run`, `shut_run`: the state of a pipe tells which of its ends were
  dropped, and whether the writer closed it in time.
* `bounded_lossless_fifo`: all of this from the beginning of a pipe on, with what each attempt to
  read or to write comes to then. `empty_write_never_waits`: an attempt to write nothing is the one
  that a full buffer does not make wait.
-/

namespace EndpointClient

/-- The writer of a pipe closes it while it is still there. -/
def PipeEvent.ShutInTime (es : List PipeEvent) : Prop :=
  ∃ before after, es = before ++ .shutdown :: after ∧ .dropWriter ∉ before

def PipeEvent.byReader : PipeEvent → Bool
  | .read _ => true
  | .dropReader => true
  | _ => false

namespace Pipe

variable {p p' : Pipe} {e : PipeEvent} {r : PipeReply} {es : List PipeEvent}

open PipeEvent (ShutInTime)

/-! ## Changes -/

theorem accept_nil (p : Pipe) : p.accept [] = p := by simp [accept]

theorem release_of_nil (h : p.buffer = []) (n : Nat) : p.release n = p := by
  obtain ⟨capacity, buffer, shut, writerGone, readerGone, hpos, hfits⟩ := p
  subst h
  simp [release]

theorem release_zero (p : Pipe) : p.release 0 = p := rfl

inductive Change (p : Pipe) : PipeEvent → Pipe → PipeReply → Prop where
  | took {bs : Bytes} (ho : p.refuses = false) (hr : bs = [] ∨ 0 < p.room) :
      Change p (.write bs) (p.accept bs) (.wrote (.took (bs.take p.room).length))
  | full {bs : Bytes} (ho : p.refuses = false) (hb : bs ≠ []) (hr : p.room = 0) :
      Change p (.write bs) p (.wrote .pending)
  | refused {bs : Bytes} (ho : p.refuses = true) :
      Change p (.write bs) p (.wrote (.failed .broken))
  | flushed : Change p .flush p .done
  | shut (hw : p.writerGone = false) : Change p .shutdown p.shutdown .done
  | droppedWriter : Change p .dropWriter p.dropWriter .done
  | read {b : ReadBuffer} (v : ReadVerdict) :
      Change p (.read b) (p.release b.free) (.read (b.put (p.buffer.take b.free)) v)
  | droppedReader : Change p .dropReader p.dropReader .done
  | noWriter {e : PipeEvent} (hw : p.writerGone = true) (he : e.byReader = false) :
      Change p e p .gone
  | noReader {e : PipeEvent} (hr : p.readerGone = true) (he : e.byReader = true) :
      Change p e p .gone

theorem write_change (p : Pipe) (bs : Bytes) :
    p.Change (.write bs) (p.write bs).1 (.wrote (p.write bs).2) := by
  cases ho : p.refuses with
  | true =>
    rw [write_refused ho]
    exact .refused ho
  | false =>
    by_cases hb : bs = []
    · subst hb
      have hnothing : p.write [] = (p.accept [], .took (([] : Bytes).take p.room).length) := by
        simp [write, ho, accept_nil]
      rw [hnothing]
      exact .took ho (.inl rfl)
    · rcases Nat.eq_zero_or_pos p.room with hr | hr
      · rw [write_full ho hr hb]
        exact .full ho hb hr
      · rw [write_room ho hr hb]
        exact .took ho (.inr hr)

/-- Whatever a read comes to, what goes into the buffer is what comes out of the pipe. -/
theorem readInto_moves (p : Pipe) (b : ReadBuffer) :
    ∃ v, p.readInto b = (p.release b.free, b.put (p.buffer.take b.free), v) := by
  have hput : b.put [] = b := by simp [ReadBuffer.put]
  rcases Nat.eq_zero_or_pos b.free with hf | hf
  · refine ⟨.done, ?_⟩
    rw [readInto_noRoom hf, hf, release_zero, List.take_zero, hput]
  · by_cases hb : p.buffer = []
    · rw [release_of_nil hb, hb, List.take_nil, hput]
      cases hs : p.shut with
      | true => exact ⟨_, readInto_shut hf hb hs⟩
      | false =>
        cases hw : p.writerGone with
        | true => exact ⟨_, readInto_cut hf hb hs hw⟩
        | false => exact ⟨_, readInto_open hf hb hs hw⟩
    · exact ⟨.done, readInto_buffered hf hb⟩

theorem step_change (p : Pipe) (e : PipeEvent) : p.Change e (p.step e).1 (p.step e).2 := by
  cases e with
  | write bs =>
    simp only [step]
    split
    · exact .noWriter ‹_› rfl
    · exact p.write_change bs
  | flush =>
    simp only [step]
    split
    · exact .noWriter ‹_› rfl
    · exact .flushed
  | shutdown =>
    simp only [step]
    split
    · exact .noWriter ‹_› rfl
    · rename_i hw
      exact .shut (by simpa using hw)
  | dropWriter =>
    simp only [step]
    split
    · exact .noWriter ‹_› rfl
    · exact .droppedWriter
  | read b =>
    simp only [step]
    split
    · exact .noReader ‹_› rfl
    · obtain ⟨v, hv⟩ := p.readInto_moves b
      rw [hv]
      exact .read v
  | dropReader =>
    simp only [step]
    split
    · exact .noReader ‹_› rfl
    · exact .droppedReader

/-! ## Books -/

def accepted (trace : List (PipeEvent × PipeReply)) : Bytes :=
  trace.flatMap fun u => u.1.accepted u.2

def handedOut (trace : List (PipeEvent × PipeReply)) : Bytes :=
  trace.flatMap fun u => u.1.handedOut u.2

theorem run_cons (p : Pipe) (e : PipeEvent) (es : List PipeEvent) :
    p.run (e :: es) =
      (((p.step e).1.run es).1, (e, (p.step e).2) :: ((p.step e).1.run es).2) := rfl

theorem Change.books (hc : p.Change e p' r) :
    e.handedOut r ++ p'.buffer = p.buffer ++ e.accepted r := by
  cases hc with
  | took => simp [PipeEvent.handedOut, PipeEvent.accepted]
  | read v =>
    simp [PipeEvent.handedOut, PipeEvent.accepted, ReadBuffer.put, release]
  | full | refused | flushed | shut | droppedWriter | droppedReader =>
    simp [PipeEvent.handedOut, PipeEvent.accepted]
  | noWriter | noReader => cases e <;> simp [PipeEvent.handedOut, PipeEvent.accepted]

/-- What was handed out, and what is buffered after that, is what was buffered and taken. -/
theorem books_run (p : Pipe) (es : List PipeEvent) :
    handedOut (p.run es).2 ++ (p.run es).1.buffer = p.buffer ++ accepted (p.run es).2 := by
  induction es generalizing p with
  | nil => simp [run, handedOut, accepted]
  | cons e es ih =>
    have hstep := (p.step_change e).books
    have hrest := ih (p.step e).1
    calc handedOut ((e, (p.step e).2) :: ((p.step e).1.run es).2) ++ ((p.step e).1.run es).1.buffer
        = e.handedOut (p.step e).2 ++
            (handedOut ((p.step e).1.run es).2 ++ ((p.step e).1.run es).1.buffer) := by
          simp [handedOut]
      _ = (e.handedOut (p.step e).2 ++ (p.step e).1.buffer) ++
            accepted ((p.step e).1.run es).2 := by
          rw [hrest, List.append_assoc]
      _ = p.buffer ++ accepted ((e, (p.step e).2) :: ((p.step e).1.run es).2) := by
          rw [hstep, List.append_assoc]
          rfl

/-! ## What the state tells of a run -/

theorem Change.capacity (hc : p.Change e p' r) : p'.capacity = p.capacity := by
  cases hc <;> rfl

theorem capacity_run (p : Pipe) (es : List PipeEvent) : (p.run es).1.capacity = p.capacity := by
  induction es generalizing p with
  | nil => rfl
  | cons e es ih => exact (ih _).trans (p.step_change e).capacity

theorem Change.readerGone_iff (hc : p.Change e p' r) :
    p'.readerGone = true ↔ p.readerGone = true ∨ e = .dropReader := by
  cases hc with
  | took | full | refused | flushed | shut | droppedWriter | read =>
    simp [accept, shutdown, dropWriter, release]
  | droppedReader => simp [dropReader]
  | noWriter _ he =>
    have hne : e ≠ .dropReader := by
      rintro rfl
      cases he
    simp [hne]
  | noReader hr => simp [hr]

theorem Change.writerGone_iff (hc : p.Change e p' r) :
    p'.writerGone = true ↔ p.writerGone = true ∨ e = .dropWriter := by
  cases hc with
  | took | full | refused | flushed | shut | droppedReader | read =>
    simp [accept, shutdown, dropReader, release]
  | droppedWriter => simp [dropWriter]
  | noWriter hw => simp [hw]
  | noReader _ he =>
    have hne : e ≠ .dropWriter := by
      rintro rfl
      cases he
    simp [hne]

/-- A flag that one event sets, and nothing takes back, tells whether that has happened. -/
theorem flag_run {flag : Pipe → Bool} {mark : PipeEvent}
    (hflag : ∀ {p p' : Pipe} {e : PipeEvent} {r : PipeReply}, p.Change e p' r →
      (flag p' = true ↔ flag p = true ∨ e = mark)) (p : Pipe) (es : List PipeEvent) :
    flag (p.run es).1 = true ↔ flag p = true ∨ mark ∈ es := by
  induction es generalizing p with
  | nil => simp [run]
  | cons e es ih =>
    rw [run_cons, ih, hflag (p.step_change e), List.mem_cons, or_assoc]
    simp only [eq_comm]

theorem readerGone_run (p : Pipe) (es : List PipeEvent) :
    (p.run es).1.readerGone = true ↔ p.readerGone = true ∨ .dropReader ∈ es :=
  flag_run Change.readerGone_iff p es

theorem writerGone_run (p : Pipe) (es : List PipeEvent) :
    (p.run es).1.writerGone = true ↔ p.writerGone = true ∨ .dropWriter ∈ es :=
  flag_run Change.writerGone_iff p es

theorem Change.shut_iff (hc : p.Change e p' r) :
    p'.shut = true ↔ p.shut = true ∨ p.writerGone = false ∧ e = .shutdown := by
  cases hc with
  | took | full | refused | flushed | droppedWriter | droppedReader | read =>
    simp [accept, dropWriter, dropReader, release]
  | shut hw => simp [shutdown, hw]
  | noWriter hw => simp [hw]
  | noReader _ he =>
    have hne : e ≠ .shutdown := by
      rintro rfl
      cases he
    simp [hne]

theorem shutInTime_cons (e : PipeEvent) (es : List PipeEvent) :
    ShutInTime (e :: es) ↔ e = .shutdown ∨ e ≠ .dropWriter ∧ ShutInTime es := by
  constructor
  · rintro ⟨before, after, hes, hbefore⟩
    cases before with
    | nil =>
      cases hes
      exact .inl rfl
    | cons e' before =>
      cases hes
      rw [List.mem_cons, not_or] at hbefore
      exact .inr ⟨Ne.symm hbefore.1, before, after, rfl, hbefore.2⟩
  · rintro (rfl | ⟨he, before, after, rfl, hbefore⟩)
    · exact ⟨[], es, rfl, by simp⟩
    · refine ⟨e :: before, after, rfl, ?_⟩
      rw [List.mem_cons, not_or]
      exact ⟨Ne.symm he, hbefore⟩

/-- A pipe is shut if its writer closed it while it was there. -/
theorem shut_run (p : Pipe) (es : List PipeEvent) :
    (p.run es).1.shut = true ↔ p.shut = true ∨ p.writerGone = false ∧ ShutInTime es := by
  induction es generalizing p with
  | nil => simp [run, ShutInTime]
  | cons e es ih =>
    -- a shutdown later on counts only if this event has not dropped the writer
    have hgone := (p.step_change e).writerGone_iff
    rw [run_cons, ih, (p.step_change e).shut_iff, shutInTime_cons]
    grind

/-! ## Attempts -/

/-- A read moves the next bytes of the pipe behind what its buffer holds, as many as are free in it
at most. -/
theorem step_read (hr : p.readerGone = false) (b : ReadBuffer) :
    ∃ bs b' v, (p.step (.read b)).2 = .read b' v ∧ b'.filled = b.filled ++ bs ∧
      bs.length + b'.free = b.free ∧ p.buffer = bs ++ (p.step (.read b)).1.buffer := by
  obtain ⟨v, hv⟩ := p.readInto_moves b
  have hstep : p.step (.read b) =
      (p.release b.free, .read (b.put (p.buffer.take b.free)) v) := by
    simp [step, hr, hv]
  rw [hstep]
  refine ⟨p.buffer.take b.free, _, v, rfl, rfl, ?_, (List.take_append_drop _ _).symm⟩
  simp only [ReadBuffer.put, List.length_take]
  omega

theorem refuses_iff (hw : p.writerGone = false) :
    p.refuses = true ↔ p.readerGone = true ∨ p.shut = true := by
  simp [refuses, hw]

/-- What an attempt to write comes to, and when. -/
theorem step_write (hw : p.writerGone = false) (bs : Bytes) :
    ∃ a, (p.step (.write bs)).2 = .wrote a ∧
      ((∃ e, a = .failed e) ↔ p.readerGone = true ∨ p.shut = true) ∧
      (∀ e, a = .failed e → e.kind = .brokenPipe) ∧
      (a = .pending ↔ p.buffer.length = p.capacity ∧ p.readerGone = false ∧ p.shut = false ∧
        bs ≠ []) ∧
      (∀ n, a = .took n → n = min bs.length (p.capacity - p.buffer.length) ∧
        (p.step (.write bs)).1.buffer = p.buffer ++ bs.take n) ∧
      ((∀ n, a ≠ .took n) → (p.step (.write bs)).1 = p) := by
  have hfits := p.fits
  have hopen : p.refuses = false ↔ p.readerGone = false ∧ p.shut = false := by
    rw [← Bool.not_eq_true, refuses_iff hw, not_or, Bool.not_eq_true, Bool.not_eq_true]
  have hchange := p.step_change (.write bs)
  generalize (p.step (.write bs)).1 = p', (p.step (.write bs)).2 = r at hchange ⊢
  cases hchange with
  | took ho hr =>
    refine ⟨_, rfl, ⟨nofun, fun hc => ?_⟩, nofun, ⟨nofun, fun hfull => ?_⟩, fun n hn => ?_,
      fun hn => absurd rfl (hn _)⟩
    · rw [← refuses_iff hw, ho] at hc
      cases hc
    · have hroom : p.room = 0 := by simp [room, hfull.1]
      rcases hr with hb | hr
      · exact absurd hb hfull.2.2.2
      · omega
    · cases hn
      have hall : bs.take (bs.take p.room).length = bs.take p.room := by
        rw [List.length_take, ← List.take_eq_take_min]
      rw [hall]
      refine ⟨?_, rfl⟩
      rw [List.length_take, room, Nat.min_comm]
  | full ho hb hr =>
    refine ⟨_, rfl, ⟨nofun, fun hc => ?_⟩, nofun, ⟨fun _ => ⟨?_, ?_⟩, fun _ => rfl⟩, nofun,
      fun _ => rfl⟩
    · rw [← refuses_iff hw, ho] at hc
      cases hc
    · rw [room] at hr
      omega
    · exact ⟨(hopen.1 ho).1, (hopen.1 ho).2, hb⟩
  | refused ho =>
    refine ⟨_, rfl, ⟨fun _ => (refuses_iff hw).1 ho, fun _ => ⟨_, rfl⟩⟩, ?_, ⟨nofun, ?_⟩, nofun,
      fun _ => rfl⟩
    · rintro e ⟨⟩
      rfl
    · rintro ⟨-, hr, hs, -⟩
      cases (hopen.2 ⟨hr, hs⟩).symm.trans ho
  | noWriter hgone => cases hw.symm.trans hgone
  | noReader _ he => cases he

/-- **A pipe is a bounded queue that loses nothing.** Let its ends do what they like, in any order
and as often as they like. What was read so far, and what is buffered after that, are the bytes that
were taken, in their order, and at most `max c 1` bytes are buffered.

A read leaves what its buffer held before as it is, takes up no more than was free in it, and what it
adds are the next bytes of the pipe. An attempt to write fails, with `BrokenPipe`, if and only if the
reader is gone or the writer has closed the pipe. It has to wait if and only if the buffer is full,
both ends are open, and there is something to write. Else it takes the longest part that fits. What
fails or has to wait changes nothing. -/
theorem bounded_lossless_fifo (c : Nat) (es : List PipeEvent) :
    let p := ((new c).run es).1
    let trace := ((new c).run es).2
    handedOut trace ++ p.buffer = accepted trace ∧
    p.buffer.length ≤ max c 1 ∧
    (∀ b, .dropReader ∉ es → ∃ bs b' v, (p.step (.read b)).2 = .read b' v ∧
      b'.filled = b.filled ++ bs ∧ bs.length + b'.free = b.free ∧
        p.buffer = bs ++ (p.step (.read b)).1.buffer) ∧
    ∀ bs, .dropWriter ∉ es → ∃ a, (p.step (.write bs)).2 = .wrote a ∧
      ((∃ e, a = .failed e) ↔ .dropReader ∈ es ∨ ShutInTime es) ∧
      (∀ e, a = .failed e → e.kind = .brokenPipe) ∧
      (a = .pending ↔
        p.buffer.length = max c 1 ∧ .dropReader ∉ es ∧ ¬ ShutInTime es ∧ bs ≠ []) ∧
      (∀ n, a = .took n → n = min bs.length (max c 1 - p.buffer.length) ∧
        (p.step (.write bs)).1.buffer = p.buffer ++ bs.take n) ∧
      ((∀ n, a ≠ .took n) → (p.step (.write bs)).1 = p) := by
  intro p trace
  have hcapacity : p.capacity = max c 1 := capacity_run (new c) es
  have hreader : p.readerGone = true ↔ .dropReader ∈ es := by
    rw [readerGone_run, readerGone_new, Bool.false_eq_true, false_or]
  have hwriter : p.writerGone = true ↔ .dropWriter ∈ es := by
    rw [writerGone_run, writerGone_new, Bool.false_eq_true, false_or]
  have hshut : p.shut = true ↔ ShutInTime es := by
    rw [shut_run, shut_new, writerGone_new, Bool.false_eq_true, false_or]
    exact and_iff_right rfl
  refine ⟨books_run (new c) es, hcapacity ▸ p.fits, fun b hes => step_read ?_ b, fun bs hes => ?_⟩
  · rwa [← Bool.not_eq_true, hreader]
  · have hthere : p.writerGone = false := by rwa [← Bool.not_eq_true, hwriter]
    obtain ⟨a, ha, hfailed, hbroken, hpending, htook, hkept⟩ := step_write hthere bs
    rw [← Bool.not_eq_true, ← Bool.not_eq_true, hreader, hshut, hcapacity] at hpending
    rw [hreader, hshut] at hfailed
    rw [hcapacity] at htook
    exact ⟨a, ha, hfailed, hbroken, hpending, htook, hkept⟩

theorem empty_write_never_waits :
    let p := ((new 1).run [.write [97]]).1
    p.buffer.length = max 1 1 ∧ p.refuses = false ∧ p.writerGone = false ∧
      (p.step (.write [])).2 = .wrote (.took 0) := by
  decide

end Pipe
end EndpointClient
