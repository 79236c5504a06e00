import EndpointClient.Connector.Exchange

/-!
# EndpointClient.Proofs.Connector.Move

All that a step can do to an exchange.

* `Exchange.WriteMove x x'`: a step of the writing side takes `x` to `x'`.
* `Exchange.CallMove x c x'`: the event `c` in the task of the call does. It leaves alone what
  belongs to the writing side (`CallMove.stage`, `CallMove.delivery`, `CallMove.hold`), as a step of
  that side leaves alone what belongs to the call (`WriteMove.call`, `WriteMove.received`).
* `Exchange.Move x x'`: either of them, or the caller gives up.
* `Exchange.WriteWait x`: the writing side cannot go on.
* `step_move`: a step changes nothing, or it is one of the moves. What a property of exchanges needs
  to hold in every run is therefore that no move breaks it (`run_induction`).

Each constructor says when its step can be taken and what it changes.
-/

namespace EndpointClient
namespace Exchange

variable {x x' : Exchange} {c : CallEvent}

/-- What a step of the writing side can do. -/
inductive WriteMove (x : Exchange) : Exchange → Prop where
  | put {part : Bytes} {rest : Http.Chunks} (hs : x.stage = .writing)
      (hd : x.delivery = .writing part rest) (hp : x.pipe.refuses = false) (hr : 0 < x.pipe.room) :
      WriteMove x { x with pipe := x.pipe.accept part
                           delivery := x.delivery.reply (.took (part.take x.pipe.room).length) }
  | refused {part : Bytes} {rest : Http.Chunks} (hs : x.stage = .writing)
      (hd : x.delivery = .writing part rest) (hp : x.pipe.refuses = true) :
      WriteMove x { x with delivery := .failed .broken }
  | flushed (hs : x.stage = .writing) (hd : x.delivery = .flushing) :
      WriteMove x { x with delivery := .closing }
  | shut (hs : x.stage = .writing) (hd : x.delivery = .closing) :
      WriteMove x { x with pipe := x.pipe.shutdown, delivery := .finished }
  | written (hs : x.stage = .writing) (hd : x.delivery = .finished) :
      WriteMove x { x with pipe := x.pipe.dropWriter, stage := .joining none }
  | severed {e : IoError} (hs : x.stage = .writing) (hd : x.delivery = .failed e)
      (hk : e.kind = .brokenPipe) :
      WriteMove x { x with pipe := x.pipe.dropWriter, stage := .joining (some e) }
  | faulted {e : IoError} (hs : x.stage = .writing) (hd : x.delivery = .failed e)
      (hk : e.kind ≠ .brokenPipe) :
      WriteMove x { x with pipe := x.pipe.dropWriter, stage := .done (.error (.streamingFailure e)),
                           hold := .detached }
  | joined {fault : Option IoError} {how : CallEnd} (hs : x.stage = .joining fault)
      (hc : x.call = .ended how) : WriteMove x { x with stage := .done (outcomeOf fault how) }

/-- What an event in the task of the call can do. -/
inductive CallMove (x : Exchange) : CallEvent → Exchange → Prop where
  | asked (ha : x.awaitsAsk = true) :
      CallMove x .ask { x with asked := x.asked ++ [x.request] }
  | chunk (hb : x.bodyHeld = true) (he : x.bodyEnd = none) (hne : x.pipe.buffer ≠ []) :
      CallMove x .pull { x with pipe := x.pipe.release x.pipe.capacity
                                taken := x.pipe.buffer :: x.taken }
  | ended (hb : x.bodyHeld = true) (he : x.bodyEnd = none) (hne : x.pipe.buffer = [])
      (hs : x.pipe.shut = true) : CallMove x .pull { x with bodyEnd := some .clean }
  | cut (hb : x.bodyHeld = true) (he : x.bodyEnd = none) (hne : x.pipe.buffer = [])
      (hs : x.pipe.shut = false) (hw : x.pipe.writerGone = true) :
      CallMove x .pull { x with bodyEnd := some (.broken .truncated) }
  | handedOn (hc : x.call.isRunning = true) (hb : x.bodyHeld = true) (hh : x.handedOn = false) :
      CallMove x .handOn { x with handedOn := true }
  | dropped (hb : x.bodyHeld = true) : CallMove x .dropBody x.dropBody
  | finished {how : CallEnd} (hc : x.call.isRunning = true) (ha : x.asked ≠ []) :
      CallMove x (.finish how) (x.endCall (.ended how))
  | reaped (hc : x.call.isRunning = true) (hh : x.hold = .aborted) :
      CallMove x .reap (x.endCall .dropped)

/-- What a step can do to an exchange. -/
inductive Move (x : Exchange) : Exchange → Prop where
  | write {x' : Exchange} (h : WriteMove x x') : Move x x'
  | call {c : CallEvent} {x' : Exchange} (h : CallMove x c x') : Move x x'
  | abandon (hs : x.stage = .writing ∨ ∃ fault, x.stage = .joining fault) :
      Move x { x with pipe := x.pipe.dropWriter, stage := .abandoned, hold := .aborted }

/-- Why the writing side cannot go on: a full pipe, a call that has not ended, or it is done. -/
inductive WriteWait (x : Exchange) : Prop where
  | room {part : Bytes} {rest : Http.Chunks} (hs : x.stage = .writing)
      (hd : x.delivery = .writing part rest) (hp : x.pipe.refuses = false) (hr : x.pipe.room = 0)
  | call {fault : Option IoError} (hs : x.stage = .joining fault) (hc : ∀ how, x.call ≠ .ended how)
  | done {o : SendOutcome} (hs : x.stage = .done o)
  | abandoned (hs : x.stage = .abandoned)

/-- A step of the writing side is a move, as long as it has something to write. -/
theorem write_move (hne : ∀ rest, x.delivery ≠ .writing [] rest) (h : x.write = some x') :
    x.WriteMove x' := by
  obtain ⟨request, pipe, delivery, stage, call, hold, asked, handedOn, taken, bodyEnd⟩ := x
  cases stage with
  | writing =>
    cases delivery with
    | writing part rest =>
      have hpart : part ≠ [] := fun e => hne rest (e ▸ rfl)
      simp only [write, Delivery.result?, Delivery.call?] at h
      cases hp : pipe.refuses with
      | true =>
        simp only [pipeReply, Pipe.write_refused hp, Option.map_some, Option.some.injEq] at h
        exact h ▸ .refused rfl rfl hp
      | false =>
        rcases Nat.eq_zero_or_pos pipe.room with hr | hr
        · simp [pipeReply, Pipe.write_full hp hr hpart] at h
        · simp only [pipeReply, Pipe.write_room hp hr hpart, Option.map_some,
            Option.some.injEq] at h
          exact h ▸ .put rfl rfl hp hr
    | flushing =>
      cases h
      exact .flushed rfl rfl
    | closing =>
      cases h
      exact .shut rfl rfl
    | finished =>
      cases h
      exact .written rfl rfl
    | failed e =>
      simp only [write, Delivery.result?, settle, Option.some.injEq] at h
      split at h
      · rename_i hk
        exact h ▸ .severed rfl rfl hk
      · rename_i hk
        exact h ▸ .faulted rfl rfl hk
  | joining fault =>
    cases call with
    | ended how =>
      cases h
      exact .joined rfl rfl
    | running => cases h
    | dropped => cases h
  | done o => cases h
  | abandoned => cases h

theorem write_wait (hne : ∀ rest, x.delivery ≠ .writing [] rest) (h : x.write = none) :
    x.WriteWait := by
  cases hs : x.stage with
  | writing =>
    cases hd : x.delivery with
    | writing part rest =>
      have hpart : part ≠ [] := fun e => hne rest (e ▸ hd)
      cases hp : x.pipe.refuses with
      | true =>
        simp [write, hs, hd, Delivery.result?, Delivery.call?, pipeReply,
          Pipe.write_refused hp] at h
      | false =>
        rcases Nat.eq_zero_or_pos x.pipe.room with hr | hr
        · exact .room hs hd hp hr
        · simp [write, hs, hd, Delivery.result?, Delivery.call?, pipeReply,
            Pipe.write_room hp hr hpart] at h
    | flushing => simp [write, hs, hd, Delivery.result?, Delivery.call?, pipeReply] at h
    | closing => simp [write, hs, hd, Delivery.result?, Delivery.call?, pipeReply] at h
    | finished => simp [write, hs, hd, Delivery.result?] at h
    | failed e => simp [write, hs, hd, Delivery.result?] at h
  | joining fault =>
    refine .call hs fun how hc => ?_
    simp [write, hs, hc] at h
  | done o => exact .done hs
  | abandoned => exact .abandoned hs

theorem pull_chunk (hb : x.bodyHeld = true) (he : x.bodyEnd = none) (hne : x.pipe.buffer ≠ []) :
    x.CallMove .pull x.pull.1 := by
  simpa [pull, hb, he, Pipe.pull_buffered hne] using CallMove.chunk hb he hne

theorem pull_ended (hb : x.bodyHeld = true) (he : x.bodyEnd = none) (hne : x.pipe.buffer = [])
    (hs : x.pipe.shut = true) : x.CallMove .pull x.pull.1 := by
  simpa [pull, hb, he, Pipe.pull_shut hne hs] using CallMove.ended hb he hne hs

theorem pull_cut (hb : x.bodyHeld = true) (he : x.bodyEnd = none) (hne : x.pipe.buffer = [])
    (hs : x.pipe.shut = false) (hw : x.pipe.writerGone = true) : x.CallMove .pull x.pull.1 := by
  simpa [pull, hb, he, Pipe.pull_cut hne hs hw] using CallMove.cut hb he hne hs hw

theorem pull_move (x : Exchange) : x.pull.1 = x ∨ x.CallMove .pull x.pull.1 := by
  cases hb : x.bodyHeld with
  | false => exact .inl (by simp [pull, hb])
  | true =>
    cases he : x.bodyEnd with
    | some b => exact .inl (by simp [pull, hb, he])
    | none =>
      by_cases hne : x.pipe.buffer = []
      · cases hs : x.pipe.shut with
        | true => exact .inr (pull_ended hb he hne hs)
        | false =>
          cases hw : x.pipe.writerGone with
          | true => exact .inr (pull_cut hb he hne hs hw)
          | false => exact .inl (by simp [pull, hb, he, Pipe.pull_open hne hs hw])
      · exact .inr (pull_chunk hb he hne)

theorem callStep_move (x : Exchange) (c : CallEvent) :
    x.callStep c = x ∨ x.CallMove c (x.callStep c) := by
  cases c with
  | ask =>
    simp only [callStep, ask]
    split
    · exact .inr (.asked ‹_›)
    · exact .inl rfl
  | pull => exact x.pull_move
  | handOn =>
    simp only [callStep]
    split
    · rename_i h
      rw [Bool.and_eq_true] at h
      cases hh : x.handedOn with
      | true =>
        refine .inl ?_
        rw [← hh]
      | false => exact .inr (.handedOn h.1 h.2 hh)
    · exact .inl rfl
  | dropBody =>
    simp only [callStep]
    split
    · exact .inr (.dropped ‹_›)
    · exact .inl rfl
  | finish how =>
    simp only [callStep, finish]
    split
    · rename_i h
      rw [Bool.and_eq_true] at h
      exact .inr (.finished h.1 (by simpa using h.2))
    · exact .inl rfl
  | reap =>
    simp only [callStep, reap]
    split
    · rename_i h
      rw [Bool.and_eq_true, decide_eq_true_eq] at h
      exact .inr (.reaped h.1 h.2)
    · exact .inl rfl

theorem abandon_move (x : Exchange) : x.abandon = x ∨ x.Move x.abandon := by
  unfold abandon
  cases hs : x.stage with
  | writing => exact .inr (.abandon (.inl hs))
  | joining fault => exact .inr (.abandon (.inr ⟨fault, hs⟩))
  | done o => exact .inl rfl
  | abandoned => exact .inl rfl

theorem step_move (hne : ∀ rest, x.delivery ≠ .writing [] rest) (e : ExchangeEvent) :
    x.step e = x ∨ x.Move (x.step e) := by
  cases e with
  | write =>
    simp only [step]
    cases h : x.write with
    | none => exact .inl rfl
    | some x' => exact .inr (.write (write_move hne h))
  | call c => exact (x.callStep_move c).imp_right .call
  | abandon => exact x.abandon_move

/-- A property that holds at the start and that no move breaks holds after every run. -/
theorem run_induction {P : Exchange → Prop}
    (hne : ∀ x, P x → ∀ rest, x.delivery ≠ .writing [] rest)
    (hmove : ∀ x x', P x → x.Move x' → P x') (h : P x) (es : List ExchangeEvent) :
    P (x.run es) := by
  induction es generalizing x with
  | nil => exact h
  | cons e es ih =>
    apply ih
    rcases step_move (hne x h) e with hstep | hstep
    · rwa [hstep]
    · exact hmove x _ h hstep

/-! ## What a move leaves alone -/

namespace WriteMove

theorem request (h : x.WriteMove x') : x'.request = x.request := by cases h <;> rfl

theorem asked (h : x.WriteMove x') : x'.asked = x.asked := by cases h <;> rfl

theorem call (h : x.WriteMove x') : x'.call = x.call := by cases h <;> rfl

theorem received (h : x.WriteMove x') : x'.received = x.received := by cases h <;> rfl

theorem bodyEnd (h : x.WriteMove x') : x'.bodyEnd = x.bodyEnd := by cases h <;> rfl

theorem readerGone (h : x.WriteMove x') : x'.pipe.readerGone = x.pipe.readerGone := by
  cases h <;> rfl

theorem stage_ne_abandoned (h : x.WriteMove x') : x'.stage ≠ .abandoned := by
  cases h with
  | put hs hd hp hr => exact hs ▸ fun e => nomatch e
  | refused hs hd hp => exact hs ▸ fun e => nomatch e
  | flushed hs hd => exact hs ▸ fun e => nomatch e
  | shut hs hd => exact hs ▸ fun e => nomatch e
  | written hs hd => exact fun e => nomatch e
  | severed hs hd hk => exact fun e => nomatch e
  | faulted hs hd hk => exact fun e => nomatch e
  | joined hs hc => exact fun e => nomatch e

end WriteMove

namespace CallMove

theorem stage (h : x.CallMove c x') : x'.stage = x.stage := by cases h <;> rfl

theorem delivery (h : x.CallMove c x') : x'.delivery = x.delivery := by cases h <;> rfl

theorem hold (h : x.CallMove c x') : x'.hold = x.hold := by cases h <;> rfl

theorem shut (h : x.CallMove c x') : x'.pipe.shut = x.pipe.shut := by cases h <;> rfl

theorem writerGone (h : x.CallMove c x') : x'.pipe.writerGone = x.pipe.writerGone := by
  cases h <;> rfl

theorem call_ended (h : x.CallMove c x') {how : CallEnd} (hc : x.call = .ended how) :
    x'.call = .ended how := by
  cases h with
  | asked ha => exact hc
  | chunk hb he hne => exact hc
  | ended hb he hne hs => exact hc
  | cut hb he hne hs hw => exact hc
  | handedOn hr hb hh => exact hc
  | dropped hb => exact hc
  | finished hr ha =>
    rw [hc] at hr
    cases hr
  | reaped hr hh =>
    rw [hc] at hr
    cases hr

theorem readerGone (h : x.CallMove c x') (hr : x.pipe.readerGone = true) :
    x'.pipe.readerGone = true := by
  cases h with
  | asked ha => exact hr
  | chunk hb he hne => exact hr
  | ended hb he hne hs => exact hr
  | cut hb he hne hs hw => exact hr
  | handedOn hc hb hh => exact hr
  | dropped hb => rfl
  | finished hc ha => simp [endCall, hr]
  | reaped hc hh => simp [endCall, hr]

end CallMove

namespace Move

theorem call_ended (h : x.Move x') {how : CallEnd} (hc : x.call = .ended how) :
    x'.call = .ended how := by
  cases h with
  | write hw => exact hw.call.trans hc
  | call hm => exact hm.call_ended hc
  | abandon hs => exact hc

theorem readerGone (h : x.Move x') (hr : x.pipe.readerGone = true) :
    x'.pipe.readerGone = true := by
  cases h with
  | write hw => exact hw.readerGone.trans hr
  | call hm => exact hm.readerGone hr
  | abandon hs => exact hr

end Move

end Exchange
end EndpointClient
