import EndpointClient.Proofs.Pipe.Fifo

/-!
# EndpointClient.Proofs.Pipe.Ending

What the reader of a pipe is told of the end of a body.

* `Pipe.report` is what a read with room comes to once everything was read. `step_read_empty`,
  `step_read_buffered`: it comes to that, or it reads something.
* `Change.closed_writer`: a pipe that was closed takes nothing more. `Change.closed_kept`: one of
  which everything was read, too, stays so, and it stays shut or not. `closed_run`: so it is in every
  run.
* `end_classified`: a read with room reports the end of a complete body, or a truncated one, or that
  more may come, each exactly when it is so, and reads something in all other cases. What it has
  reported once of an end it reports for good.
-/

namespace EndpointClient
namespace Pipe

open PipeEvent (ShutInTime)

variable {p p' : Pipe} {b : ReadBuffer} {e : PipeEvent} {r : PipeReply} {es : List PipeEvent}

/-! ## Reads with room -/

theorem step_read_eq (hr : p.readerGone = false) (b : ReadBuffer) :
    p.step (.read b) = ((p.readInto b).1, .read (p.readInto b).2.1 (p.readInto b).2.2) := by
  simp [step, hr]

theorem step_read_buffered (hr : p.readerGone = false) (hf : 0 < b.free) (h : p.buffer ≠ []) :
    ∃ bs, bs ≠ [] ∧ (p.step (.read b)).2 = .read (b.put bs) .done := by
  refine ⟨p.buffer.take b.free, fun hnil => ?_, ?_⟩
  · rcases List.take_eq_nil_iff.1 hnil with h0 | hnil
    · omega
    · exact h hnil
  · rw [step_read_eq hr, readInto_buffered hf h]

theorem put_ne_self {bs : Bytes} (h : bs ≠ []) (b : ReadBuffer) : b.put bs ≠ b := by
  intro heq
  have hfilled : b.filled ++ bs = b.filled := congrArg ReadBuffer.filled heq
  exact h (List.append_right_eq_self.1 hfilled)

/-- What a read with room comes to once everything was read. -/
def report (p : Pipe) : ReadVerdict :=
  if p.shut then .done else if p.writerGone then .failed .truncated else .pending

theorem step_read_empty (hr : p.readerGone = false) (hf : 0 < b.free) (h : p.buffer = []) :
    p.step (.read b) = (p, .read b p.report) := by
  rw [step_read_eq hr]
  cases hs : p.shut with
  | true => simp [readInto_shut hf h hs, report, hs]
  | false =>
    cases hw : p.writerGone with
    | true => simp [readInto_cut hf h hs hw, report, hs, hw]
    | false => simp [readInto_open hf h hs hw, report, hs, hw]

/-- A read with room reports the end of a complete body. -/
theorem read_ended_iff (hr : p.readerGone = false) (hf : 0 < b.free) :
    (p.step (.read b)).2 = .read b .done ↔ p.shut = true ∧ p.buffer = [] := by
  by_cases h : p.buffer = []
  · rw [step_read_empty hr hf h]
    grind [report]
  · obtain ⟨bs, hbs, hread⟩ := step_read_buffered hr hf h
    have hne := put_ne_self hbs b
    simp [hread, h, hne]

/-- A read with room fails, and then since the body is truncated. -/
theorem read_failed_iff (hr : p.readerGone = false) (hf : 0 < b.free) (e : IoError) :
    (p.step (.read b)).2 = .read b (.failed e) ↔
      e = .truncated ∧ p.writerGone = true ∧ p.shut = false ∧ p.buffer = [] := by
  by_cases h : p.buffer = []
  · rw [step_read_empty hr hf h]
    grind [report]
  · obtain ⟨bs, -, hread⟩ := step_read_buffered hr hf h
    simp [hread, h]

theorem read_pending_iff (hr : p.readerGone = false) (hf : 0 < b.free) :
    (p.step (.read b)).2 = .read b .pending ↔
      p.writerGone = false ∧ p.shut = false ∧ p.buffer = [] := by
  by_cases h : p.buffer = []
  · rw [step_read_empty hr hf h]
    grind [report]
  · obtain ⟨bs, -, hread⟩ := step_read_buffered hr hf h
    simp [hread, h]

/-- A read with room that does not just give its buffer back has read something. -/
theorem read_some (hr : p.readerGone = false) (hf : 0 < b.free)
    (h : ∀ v, (p.step (.read b)).2 ≠ .read b v) :
    ∃ bs, bs ≠ [] ∧ (p.step (.read b)).2 = .read (b.put bs) .done := by
  by_cases hb : p.buffer = []
  · exact absurd (congrArg Prod.snd (step_read_empty hr hf hb)) (h _)
  · exact step_read_buffered hr hf hb

/-! ## What is told for good -/

/-- A pipe that is closed takes nothing more from its writer, and stays as it is. -/
theorem Change.closed_writer (hc : p.Change e p' r) (he : e.byReader = false)
    (h : p.closed = true) :
    p'.closed = true ∧ p'.buffer = p.buffer ∧ p'.shut = p.shut ∧ e.accepted r = [] := by
  cases hc with
  | took ho =>
    have hrefuses : p.refuses = true := by
      rw [refuses, Bool.or_assoc]
      exact Bool.or_eq_true_iff.2 (.inr h)
    cases ho.symm.trans hrefuses
  | shut hw =>
    have hs : p.shut = true := by simpa [closed, hw] using h
    exact ⟨rfl, rfl, hs.symm, rfl⟩
  | droppedWriter => exact ⟨Bool.or_true _, rfl, rfl, rfl⟩
  | full | refused | flushed => exact ⟨h, rfl, rfl, rfl⟩
  | noWriter =>
    refine ⟨h, rfl, rfl, ?_⟩
    cases e <;> rfl
  | read | droppedReader => cases he
  | noReader _ hreader => cases he.symm.trans hreader

/-- A pipe that is closed and empty stays so, and shut or not as it was. -/
theorem Change.closed_kept (hc : p.Change e p' r) (h : p.closed = true ∧ p.buffer = []) :
    (p'.closed = true ∧ p'.buffer = []) ∧ p'.shut = p.shut := by
  cases he : e.byReader with
  | false =>
    obtain ⟨hclosed, hbuffer, hshut, -⟩ := hc.closed_writer he h.1
    exact ⟨⟨hclosed, hbuffer.trans h.2⟩, hshut⟩
  | true =>
    cases hc with
    | read v => exact ⟨⟨h.1, by simp [release, h.2]⟩, rfl⟩
    | droppedReader | noReader => exact ⟨h, rfl⟩
    | took | full | refused | flushed | shut | droppedWriter => cases he
    | noWriter _ hwriter => cases he.symm.trans hwriter

theorem closed_run (h : p.closed = true ∧ p.buffer = []) (es : List PipeEvent) :
    ((p.run es).1.closed = true ∧ (p.run es).1.buffer = []) ∧ (p.run es).1.shut = p.shut := by
  induction es generalizing p with
  | nil => exact ⟨h, rfl⟩
  | cons e es ih =>
    obtain ⟨hkept, hshut⟩ := (p.step_change e).closed_kept h
    exact ⟨(ih hkept).1, (ih hkept).2.trans hshut⟩

theorem report_of_closed (h : p.closed = true) :
    p.report = if p.shut then .done else .failed .truncated := by
  cases hs : p.shut with
  | true => simp [report, hs]
  | false =>
    have hw : p.writerGone = true := by simpa [closed, hs] using h
    simp [report, hs, hw]

theorem closed_of_report (h : p.report ≠ .pending) : p.closed = true := by
  grind [report, closed]

/-- A report of an end, once given, is given for good. -/
theorem report_kept {b' : ReadBuffer} {v : ReadVerdict} (hr : p.readerGone = false)
    (hf : 0 < b.free) (hf' : 0 < b'.free) (hes : .dropReader ∉ es) (hv : v ≠ .pending)
    (h : (p.step (.read b)).2 = .read b v) :
    (((p.step (.read b)).1.run es).1.step (.read b')).2 = .read b' v := by
  by_cases hb : p.buffer = []
  · rw [step_read_empty hr hf hb] at h ⊢
    obtain rfl : p.report = v := (PipeReply.read.inj h).2
    have hclosed := closed_of_report hv
    obtain ⟨⟨hclosed', hb'⟩, hshut⟩ := closed_run ⟨hclosed, hb⟩ es
    have hr' : (p.run es).1.readerGone = false := by
      rw [← Bool.not_eq_true, readerGone_run]
      simp [hr, hes]
    rw [step_read_empty hr' hf' hb', report_of_closed hclosed', hshut, report_of_closed hclosed]
  · -- the read has filled its buffer with something, and is no report
    obtain ⟨bs, hbs, hread⟩ := step_read_buffered hr hf hb
    exact absurd (PipeReply.read.inj (hread.symm.trans h)).1 (put_ne_self hbs b)

/-- **The end of a body is told rightly.** Let writes, shutdowns, reads and a drop of the writer come
in any order. A read into a buffer with room then succeeds without a byte if and only if the writer
closed the pipe while it was there, and every byte that was taken has been read. It fails, with
`UnexpectedEof`, if and only if the writer went away without that, and every byte has been read. It
has to wait if and only if the writer may still write, and nothing is buffered. In all other cases it
reads something.

A read without room succeeds whatever the pipe is like, and tells nothing. And an end that was
reported once is reported to every later read with room. -/
theorem end_classified (c : Nat) (es : List PipeEvent) (hes : .dropReader ∉ es) :
    let p := ((new c).run es).1
    let trace := ((new c).run es).2
    (∀ b, 0 < b.free →
      ((p.step (.read b)).2 = .read b .done ↔
        ShutInTime es ∧ handedOut trace = accepted trace) ∧
      (∀ e, (p.step (.read b)).2 = .read b (.failed e) ↔ e = .truncated ∧ .dropWriter ∈ es ∧
        ¬ ShutInTime es ∧ handedOut trace = accepted trace) ∧
      ((p.step (.read b)).2 = .read b .pending ↔
        .dropWriter ∉ es ∧ ¬ ShutInTime es ∧ p.buffer = []) ∧
      ((∀ v, (p.step (.read b)).2 ≠ .read b v) →
        ∃ bs, bs ≠ [] ∧ (p.step (.read b)).2 = .read (b.put bs) .done)) ∧
    (∀ b, b.free = 0 → p.step (.read b) = (p, .read b .done)) ∧
    ∀ b b' v es', 0 < b.free → 0 < b'.free → .dropReader ∉ es' → v ≠ .pending →
      (p.step (.read b)).2 = .read b v →
        (((p.step (.read b)).1.run es').1.step (.read b')).2 = .read b' v := by
  intro p trace
  have hreader : p.readerGone = false := by
    rw [← Bool.not_eq_true, readerGone_run, readerGone_new]
    simpa using hes
  have hwriter : p.writerGone = true ↔ .dropWriter ∈ es := by
    rw [writerGone_run, writerGone_new, Bool.false_eq_true, false_or]
  have hshut : p.shut = true ↔ ShutInTime es := by
    rw [shut_run, shut_new, writerGone_new, Bool.false_eq_true, false_or]
    exact and_iff_right rfl
  have hempty : p.buffer = [] ↔ handedOut trace = accepted trace := by
    have hbooks : handedOut trace ++ p.buffer = accepted trace := books_run (new c) es
    rw [← hbooks]
    exact List.self_eq_append_right.symm
  refine ⟨fun b hf => ⟨?_, fun e => ?_, ?_, read_some hreader hf⟩, fun b hf => ?_, ?_⟩
  · rw [read_ended_iff hreader hf, hshut, hempty]
  · rw [read_failed_iff hreader hf, hwriter, ← Bool.not_eq_true, hshut, hempty]
  · rw [read_pending_iff hreader hf, ← Bool.not_eq_true, ← Bool.not_eq_true, hwriter, hshut]
  · rw [step_read_eq hreader, readInto_noRoom hf]
  · intro b b' v es' hf hf' hes' hv h
    exact report_kept hreader hf hf' hes' hv h

/-- The writer goes away after it has closed the pipe: the body is complete, and stays so. -/
theorem end_classified_shut :
    let p := ((new 4).run [.write [1, 2], .read ⟨[9], 1⟩, .shutdown, .dropWriter,
      .read ⟨[], 3⟩]).1
    (p.step (.read ⟨[7], 1⟩)).2 = .read ⟨[7], 1⟩ .done ∧
      (((p.step (.read ⟨[7], 1⟩)).1.run [.write [3], .flush]).1.step (.read ⟨[], 8⟩)).2 =
        .read ⟨[], 8⟩ .done := by
  intro p
  obtain ⟨hreports, -, hkept⟩ := end_classified 4 [.write [1, 2], .read ⟨[9], 1⟩, .shutdown,
    .dropWriter, .read ⟨[], 3⟩] (by decide)
  have hended := (hreports ⟨[7], 1⟩ (by decide)).1.2
    ⟨⟨[.write [1, 2], .read ⟨[9], 1⟩], [.dropWriter, .read ⟨[], 3⟩], rfl, by decide⟩, by decide⟩
  exact ⟨hended, hkept ⟨[7], 1⟩ ⟨[], 8⟩ .done _ (by decide) (by decide) (by decide) (by decide)
    hended⟩

end Pipe
end EndpointClient
