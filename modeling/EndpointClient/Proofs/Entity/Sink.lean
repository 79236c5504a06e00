import EndpointClient.Proofs.Delivery
import EndpointClient.Rehearsal.SinkScript

/-!
# EndpointClient.Proofs.Entity.Sink

What a sink meets when an entity is written into it.

* `Served` ties a log of calls and answers to the sink that gave them, and `Delivery.Calls` ties it
  to the writing that made the calls. `served_run`: each run of a writing has such a log.
* `StandsAfter` is the invariant between two calls: which chunk is being written, and what of it is
  left. `StandsAfter.took` is the step, `ends_of_calls` the run.
* `Ends` are the ways that a writing can end. `write_follows_protocol`: there is no other one,
  whatever the sink does.
-/

namespace EndpointClient

open Http (Chunks)

/-! ## Sinks and their logs -/

/-- Calls on a sink, each with its answer, in order. -/
abbrev SinkLog := List (SinkCall × SinkReply)

/-- The answers that a sink may give. Of a write it takes no more than there is. -/
def SinkCall.Admits : SinkCall → SinkReply → Prop
  | _, .failed _ => True
  | .write bs, .took n => n ≤ bs.length
  | .write _, .done => False
  | .flush, r => r = .done
  | .shutdown, r => r = .done

/-- The failure that an answer stands for. -/
def SinkReply.fault? : SinkReply → Option IoError
  | .took 0 => some .tookNothing
  | .took _ => none
  | .done => none
  | .failed e => some e

/-- A write of which something was taken. -/
def Taken : SinkCall × SinkReply → Prop
  | (.write bs, .took n) => 0 < n ∧ n ≤ bs.length
  | _ => False

def SinkLog.stored : SinkLog → Bytes
  | [] => []
  | (.write bs, .took n) :: log => bs.take n ++ stored log
  | _ :: log => stored log

variable {σ : Type} {answer : σ → SinkCall → σ × SinkReply}

def LawfulSink (answer : σ → SinkCall → σ × SinkReply) : Prop :=
  ∀ (s : σ) (c : SinkCall), c.Admits (answer s c).2

/-- A sink in the state `s` meets the calls of a log, gives the answers in it, and is left in
`s'`. -/
inductive Served (answer : σ → SinkCall → σ × SinkReply) : σ → SinkLog → σ → Prop where
  | uncalled (s : σ) : Served answer s [] s
  | called {s s' : σ} {log : SinkLog} (c : SinkCall) (h : Served answer (answer s c).1 log s') :
    Served answer s ((c, (answer s c).2) :: log) s'

/-- A writing that stands at `d` makes the calls of a log, gets the answers in it, and ends so. -/
inductive Delivery.Calls : Delivery → SinkLog → Except IoError Unit → Prop where
  | ended {d : Delivery} {r : Except IoError Unit} (h : d.result? = some r) : Calls d [] r
  | called {d : Delivery} {c : SinkCall} {log : SinkLog} {r : Except IoError Unit}
    (reply : SinkReply) (hc : d.call? = some c) (h : Calls (d.reply reply) log r) :
    Calls d ((c, reply) :: log) r

theorem Served.admits (hl : LawfulSink answer) {s s' : σ} {log : SinkLog}
    (h : Served answer s log s') : ∀ x ∈ log, x.1.Admits x.2 := by
  induction h with
  | uncalled s => simp
  | @called s _ _ c _ ih =>
    intro x hx
    rcases List.mem_cons.1 hx with rfl | hx
    · exact hl s c
    · exact ih x hx

theorem SinkLog.stored_append (log log' : SinkLog) :
    (log ++ log').stored = log.stored ++ log'.stored := by
  induction log with
  | nil => rfl
  | cons x log ih =>
    obtain ⟨c, reply⟩ := x
    rw [List.cons_append]
    cases c <;> cases reply <;> simp [stored, ih]

/-- Writing to the end has a log. -/
theorem Delivery.served_run (answer : σ → SinkCall → σ × SinkReply) (s : σ) (d : Delivery) :
    ∃ log, Served answer s log (run answer s d).1 ∧ Calls d log (run answer s d).2 := by
  fun_induction run answer s d with
  | case1 s d c hc s' reply hanswer _ ih =>
    obtain ⟨log, hserved, hcalls⟩ := ih
    have hs : s' = (answer s c).1 := by rw [hanswer]
    have hreply : reply = (answer s c).2 := by rw [hanswer]
    subst hs hreply
    exact ⟨_, .called c hserved, .called _ hc hcalls⟩
  | case2 s e => exact ⟨[], .uncalled s, .ended rfl⟩
  | case3 s d hc _ hne =>
    refine ⟨[], .uncalled s, .ended ?_⟩
    cases d with
    | failed e => exact (hne e hc rfl HEq.rfl).elim
    | finished => rfl
    | writing => simp [call?] at hc
    | flushing => simp [call?] at hc
    | closing => simp [call?] at hc

/-! ## Chunks before a failure -/

theorem Http.Chunks.failure?_append {front : Chunks} (h : front.failure? = none) (rest : Chunks) :
    Chunks.failure? (front ++ rest) = rest.failure? := by
  induction front with
  | nil => rfl
  | cons c front ih =>
    cases c with
    | error e => cases h
    | ok bs => exact ih h

theorem Http.Chunks.bytes_append {front : Chunks} (h : front.failure? = none) (rest : Chunks) :
    Chunks.bytes (front ++ rest) = front.bytes ++ rest.bytes := by
  induction front with
  | nil => rfl
  | cons c front ih =>
    cases c with
    | error e => cases h
    | ok bs =>
      rw [List.cons_append, Chunks.bytes, ih h, Chunks.bytes, List.append_assoc]

/-! ## Between two calls -/

/-- Where the writing of chunks stands when the bytes `sent` are stored: within a chunk, of which
`part` is left, at the failure of the entity, or behind all chunks. -/
inductive StandsAfter (cs : Chunks) : (sent : Bytes) → Delivery → Prop where
  | within {front rest : Chunks} {done part : Bytes}
    (hcs : cs = front ++ .ok (done ++ part) :: rest) (hfront : front.failure? = none)
    (hne : part ≠ []) : StandsAfter cs (front.bytes ++ done) (.writing part rest)
  | broken {e : IoError} (hf : cs.failure? = some e) : StandsAfter cs cs.bytes (.failed e)
  | through (hf : cs.failure? = none) : StandsAfter cs cs.bytes .flushing

theorem standsAfter_ofChunks {cs front rest : Chunks} (hcs : cs = front ++ rest)
    (hfront : front.failure? = none) : StandsAfter cs front.bytes (.ofChunks rest) := by
  fun_induction Delivery.ofChunks rest generalizing front with
  | case1 =>
    rw [List.append_nil] at hcs
    subst hcs
    exact .through hfront
  | case2 rest ih =>
    have hfront' : Chunks.failure? (front ++ [.ok []]) = none := by
      rw [Chunks.failure?_append hfront]
      rfl
    have hcs' : cs = (front ++ [.ok []]) ++ rest := by simp [hcs]
    have h := ih hcs' hfront'
    rwa [Chunks.bytes_append hfront, Chunks.bytes, Chunks.bytes, List.append_nil,
      List.append_nil] at h
  | case3 bs rest hne =>
    have h : StandsAfter cs (front.bytes ++ []) (.writing bs rest) :=
      .within hcs hfront fun hnil => hne hnil
    rwa [List.append_nil] at h
  | case4 e rest =>
    have hb : cs.bytes = front.bytes := by
      rw [hcs, Chunks.bytes_append hfront, Chunks.bytes, List.append_nil]
    rw [← hb]
    refine .broken ?_
    rw [hcs, Chunks.failure?_append hfront]
    rfl

/-- What a sink takes of a chunk moves the writing on by that. -/
theorem StandsAfter.took {cs front rest : Chunks} {done part : Bytes} {n : Nat}
    (hcs : cs = front ++ .ok (done ++ part) :: rest) (hfront : front.failure? = none) (hn : 0 < n) :
    StandsAfter cs (front.bytes ++ (done ++ part.take n))
      ((Delivery.writing part rest).reply (.took n)) := by
  have hsplit : part.take n ++ part.drop n = part := List.take_append_drop n part
  simp only [Delivery.reply, Nat.ne_of_gt hn, if_false]
  split
  · rename_i hdrop
    rw [hdrop, List.append_nil] at hsplit
    have hfront' : Chunks.failure? (front ++ [.ok (done ++ part)]) = none := by
      rw [Chunks.failure?_append hfront]
      rfl
    have hcs' : cs = (front ++ [.ok (done ++ part)]) ++ rest := by simp [hcs]
    have h := standsAfter_ofChunks hcs' hfront'
    rwa [Chunks.bytes_append hfront, Chunks.bytes, Chunks.bytes, List.append_nil, ← hsplit] at h
  · rename_i hne
    refine .within ?_ hfront hne
    rw [List.append_assoc, hsplit]
    exact hcs

/-! ## The end -/

/-- The ways that the writing of chunks into a sink can end, with the log of the sink. In front of
the last calls there are only writes of which something was taken. -/
inductive Ends (cs : Chunks) : SinkLog → Except IoError Unit → Prop where
  | delivered {ws : SinkLog} (hw : ∀ x ∈ ws, Taken x) (hs : ws.stored = cs.bytes)
    (hf : cs.failure? = none) :
    Ends cs (ws ++ [(.flush, .done), (.shutdown, .done)]) (.ok ())
  | entityFailed {ws : SinkLog} {e : IoError} (hw : ∀ x ∈ ws, Taken x) (hs : ws.stored = cs.bytes)
    (hf : cs.failure? = some e) : Ends cs ws (.error e)
  | writeFailed {ws : SinkLog} {front rest : Chunks} {done part : Bytes} {reply : SinkReply}
    {e : IoError} (hw : ∀ x ∈ ws, Taken x) (hcs : cs = front ++ .ok (done ++ part) :: rest)
    (hfront : front.failure? = none) (hne : part ≠ []) (hs : ws.stored = front.bytes ++ done)
    (he : reply.fault? = some e) : Ends cs (ws ++ [(.write part, reply)]) (.error e)
  | flushFailed {ws : SinkLog} {e : IoError} (hw : ∀ x ∈ ws, Taken x) (hs : ws.stored = cs.bytes)
    (hf : cs.failure? = none) : Ends cs (ws ++ [(.flush, .failed e)]) (.error e)
  | shutdownFailed {ws : SinkLog} {e : IoError} (hw : ∀ x ∈ ws, Taken x)
    (hs : ws.stored = cs.bytes) (hf : cs.failure? = none) :
    Ends cs (ws ++ [(.flush, .done), (.shutdown, .failed e)]) (.error e)

theorem Delivery.Calls.of_failed {e : IoError} {log : SinkLog} {r : Except IoError Unit}
    (h : Calls (.failed e) log r) : log = [] ∧ r = .error e := by
  cases h with
  | ended h =>
    cases h
    exact ⟨rfl, rfl⟩
  | called reply hc => cases hc

theorem Delivery.Calls.of_finished {log : SinkLog} {r : Except IoError Unit}
    (h : Calls .finished log r) : log = [] ∧ r = .ok () := by
  cases h with
  | ended h =>
    cases h
    exact ⟨rfl, rfl⟩
  | called reply hc => cases hc

/-- Behind all chunks there is one flush, and if that is done, one shutdown. -/
theorem ends_of_flushing {cs : Chunks} {ws log : SinkLog} {r : Except IoError Unit}
    (hw : ∀ x ∈ ws, Taken x) (hs : ws.stored = cs.bytes) (hf : cs.failure? = none)
    (hadm : ∀ x ∈ log, x.1.Admits x.2) (h : Delivery.Calls .flushing log r) :
    Ends cs (ws ++ log) r := by
  cases h with
  | ended h => cases h
  | called reply hc h =>
    cases hc
    cases reply with
    | took n => exact absurd (hadm _ List.mem_cons_self) (by simp [SinkCall.Admits])
    | failed e =>
      obtain ⟨rfl, rfl⟩ := h.of_failed
      exact .flushFailed hw hs hf
    | done =>
      cases h with
      | ended h => cases h
      | called reply hc h =>
        cases hc
        cases reply with
        | took n =>
          exact absurd (hadm _ (List.mem_cons_of_mem _ List.mem_cons_self))
            (by simp [SinkCall.Admits])
        | failed e =>
          obtain ⟨rfl, rfl⟩ := h.of_failed
          exact .shutdownFailed hw hs hf
        | done =>
          obtain ⟨rfl, rfl⟩ := h.of_finished
          exact .delivered hw hs hf

/-- From each place on the writing ends in one of these ways. The induction is on the calls to come,
and `ws` are those that were made. -/
theorem ends_of_calls {cs : Chunks} {ws log : SinkLog} {d : Delivery} {r : Except IoError Unit}
    (hd : StandsAfter cs ws.stored d) (hw : ∀ x ∈ ws, Taken x)
    (hadm : ∀ x ∈ log, x.1.Admits x.2) (h : d.Calls log r) : Ends cs (ws ++ log) r := by
  induction h generalizing ws with
  | ended h =>
    generalize hsent : ws.stored = sent at hd
    cases hd with
    | within => cases h
    | through => cases h
    | broken hf =>
      cases h
      rw [List.append_nil]
      exact .entityFailed hw hsent hf
  | @called d c log r reply hc h ih =>
    generalize hsent : ws.stored = sent at hd
    cases hd with
    | broken => cases hc
    | through hf => exact ends_of_flushing hw hsent hf hadm (.called reply hc h)
    | @within front rest done part hcs hfront hne =>
      cases hc
      have hreply := hadm _ List.mem_cons_self
      cases reply with
      | done => exact absurd hreply (by simp [SinkCall.Admits])
      | failed e =>
        obtain ⟨rfl, rfl⟩ := h.of_failed
        exact .writeFailed hw hcs hfront hne hsent rfl
      | took n =>
        cases n with
        | zero =>
          obtain ⟨rfl, rfl⟩ := h.of_failed
          exact .writeFailed hw hcs hfront hne hsent rfl
        | succ n =>
          have hlen : n + 1 ≤ part.length := hreply
          have hstored : SinkLog.stored (ws ++ [(.write part, .took (n + 1))]) =
              front.bytes ++ (done ++ part.take (n + 1)) := by
            rw [SinkLog.stored_append, hsent, SinkLog.stored, SinkLog.stored, List.append_nil,
              List.append_assoc]
          have hstands := StandsAfter.took hcs hfront n.succ_pos
          rw [← hstored] at hstands
          have hnext := ih hstands ?_ fun x hx => hadm x (List.mem_cons_of_mem _ hx)
          · rwa [List.append_assoc] at hnext
          · intro x hx
            rcases List.mem_append.1 hx with hx | hx
            · exact hw x hx
            · cases List.mem_singleton.1 hx
              exact ⟨n.succ_pos, hlen⟩

theorem Taken.not_shutdown {ws : SinkLog} (hw : ∀ x ∈ ws, Taken x) (reply : SinkReply) :
    (.shutdown, reply) ∉ ws := by
  intro hmem
  exact hw _ hmem

/-- A writing that has failed has shut nothing down. -/
theorem Ends.not_shut {cs : Chunks} {log : SinkLog} {e : IoError} (h : Ends cs log (.error e)) :
    (.shutdown, .done) ∉ log := by
  cases h with
  | entityFailed hw => exact Taken.not_shutdown hw _
  | writeFailed hw => simp [Taken.not_shutdown hw]
  | flushFailed hw => simp [Taken.not_shutdown hw]
  | shutdownFailed hw => simp [Taken.not_shutdown hw]

theorem SinkLog.stored_fault {c : SinkCall} {reply : SinkReply} {e : IoError}
    (h : reply.fault? = some e) : SinkLog.stored [(c, reply)] = [] := by
  cases c with
  | flush => rfl
  | shutdown => rfl
  | write bs =>
    cases reply with
    | done => rfl
    | failed e => rfl
    | took n =>
      cases n with
      | zero => simp [stored]
      | succ n => cases h

/-- What is stored is the whole entity if the writing succeeds, and a part from its front if not. -/
theorem Ends.stored {cs : Chunks} {log : SinkLog} {r : Except IoError Unit} (h : Ends cs log r) :
    log.stored <+: cs.bytes ∧ (r = .ok () → log.stored = cs.bytes ∧ cs.failure? = none) := by
  cases h with
  | delivered hw hs hf => simp [SinkLog.stored_append, SinkLog.stored, hs, hf]
  | entityFailed hw hs hf => simp [hs]
  | flushFailed hw hs hf => simp [SinkLog.stored_append, SinkLog.stored, hs]
  | shutdownFailed hw hs hf => simp [SinkLog.stored_append, SinkLog.stored, hs]
  | @writeFailed ws front rest done part reply e hw hcs hfront hne hs he =>
    rw [SinkLog.stored_append, SinkLog.stored_fault he, List.append_nil, hs, hcs,
      Chunks.bytes_append hfront, Chunks.bytes]
    refine ⟨?_, by simp⟩
    exact ⟨part ++ rest.bytes, by simp⟩

/-- What comes of writing an entity into a sink, and what the sink meets. -/
theorem EntitySlot.ends_write (hl : LawfulSink answer) (e : Entity) (s : σ) :
    ∃ log s' r, write answer ⟨some e, some s⟩ = (⟨none, none⟩, some s', r) ∧
      Served answer s log s' ∧ Ends e.chunks log r := by
  obtain ⟨log, hserved, hcalls⟩ := Delivery.served_run answer s (.start e)
  have hstart : StandsAfter e.chunks (SinkLog.stored []) (.start e) :=
    standsAfter_ofChunks (List.nil_append _).symm rfl
  exact ⟨log, _, _, rfl, hserved, ends_of_calls hstart (by simp) (hserved.admits hl) hcalls⟩

/-- **An entity is written by the rules of its sink.** Whatever the entity and whatever a lawful
sink does, the writing comes to an end in one of the ways of `Ends`: all chunks in writes that are
not empty, one flush and one shutdown, or up to the first failure, with no call behind it. The
request is left without entity and sink, and the sink is dropped. Only a writing that succeeds has
shut it down. What it stores then is all bytes of the entity, however they are cut and however much
of a write the sink takes. -/
theorem EntitySlot.write_follows_protocol (hl : LawfulSink answer) (e : Entity) (s : σ) :
    ∃ log s' r, write answer ⟨some e, some s⟩ = (⟨none, none⟩, some s', r) ∧
      Served answer s log s' ∧ Ends e.chunks log r ∧
        (r ≠ .ok () → (.shutdown, .done) ∉ log) ∧ log.stored <+: e.chunks.bytes ∧
          (r = .ok () → log.stored = e.chunks.bytes ∧ e.chunks.failure? = none) := by
  obtain ⟨log, s', r, hwrite, hserved, hends⟩ := ends_write hl e s
  refine ⟨log, s', r, hwrite, hserved, hends, fun hr => ?_, hends.stored⟩
  cases r with
  | ok _ => exact absurd rfl hr
  | error err => exact hends.not_shut

namespace Rehearsal.RecordingSink

theorem length_accepts_le (s : RecordingSink) (bs : Bytes) : (s.accepts bs).length ≤ bs.length := by
  unfold accepts
  split
  · exact Nat.zero_le _
  · cases s.rules.perWrite with
    | none => exact Nat.le_refl _
    | some n => exact List.length_take_le' n bs

theorem lawful_answer : LawfulSink RecordingSink.answer := by
  intro s c
  unfold RecordingSink.answer
  dsimp only
  split
  · cases c <;> simp [SinkCall.Admits]
  · cases c with
    | flush => rfl
    | shutdown => rfl
    | write bs => exact length_accepts_le _ bs

end Rehearsal.RecordingSink

open Rehearsal in
/-- Chunks of which one is empty, for a sink that takes two bytes of a write and fails the first
shutdown. -/
theorem EntitySlot.write_follows_protocol_shutdown :
    let sink : RecordingSink :=
      { rules := { perWrite := some 2, failure := some ⟨.shutdown, 1, ⟨.timedOut, "slow"⟩⟩ } }
    let e : Entity := .stream [.ok [1, 2, 3], .ok [], .ok [4]]
    LawfulSink RecordingSink.answer ∧
    ∃ log s' r, write RecordingSink.answer ⟨some e, some sink⟩ = (⟨none, none⟩, some s', r) ∧
      Served RecordingSink.answer sink log s' ∧ Ends e.chunks log r ∧
        (r ≠ .ok () → (.shutdown, .done) ∉ log) ∧ log.stored <+: e.chunks.bytes ∧
          (r = .ok () → log.stored = e.chunks.bytes ∧ e.chunks.failure? = none) :=
  ⟨RecordingSink.lawful_answer, write_follows_protocol RecordingSink.lawful_answer _ _⟩

end EndpointClient
