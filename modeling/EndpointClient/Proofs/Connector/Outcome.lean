import EndpointClient.Proofs.Connector.Body

/-!
# EndpointClient.Proofs.Connector.Outcome

Where the outcome of an exchange comes from.

* `Exchange.Staged x`: who has a hold on the call, how the writing ended, and what the outcome is
  made of agree with how far the writing side is. `staged_run`: so it is in every run.
* `writerLeft` is what is left to do for the writing side. `Exchange.Concluded cs how x`: the call
  has ended and its request body is gone. From then on every turn of the writing side makes it less
  (`Concluded.run`), and the outcome is there when nothing is left (`Concluded.done`).
* `engine_error_wins`: an error of the engine is the outcome of an entity that does not fail,
  whether the pipe broke or not.
-/

namespace EndpointClient
namespace Exchange

open Http (Chunks)

variable {cs : Chunks} {x x' : Exchange} {c : CallEvent}

/-! ## The stages of the writing side -/

/-- How the writing ended, where the exchange waits for the call after a fault or without one. -/
def Wrote (d : Delivery) : Option IoError → Prop
  | none => d = .finished
  | some e => d = .failed e ∧ e.kind = .brokenPipe

/-- What an outcome is made of: the end of the call, or a failure of the entity. -/
inductive Settled (x : Exchange) : SendOutcome → Prop where
  | joined {fault : Option IoError} {how : CallEnd} (hh : x.hold = .held)
      (hw : Wrote x.delivery fault) (hc : x.call = .ended how) : Settled x (outcomeOf fault how)
  | faulted {e : IoError} (hh : x.hold = .detached) (hd : x.delivery = .failed e)
      (hk : e.kind ≠ .brokenPipe) : Settled x (.error (.streamingFailure e))

/-- How far the writing side is agrees with the rest. -/
def Staged (x : Exchange) : Prop :=
  match x.stage with
  | .writing => x.hold = .held
  | .joining fault => x.hold = .held ∧ Wrote x.delivery fault
  | .done o => x.Settled o
  | .abandoned => x.hold = .aborted

theorem Staged.held (h : x.Staged) (hs : x.stage = .writing) : x.hold = .held := by
  unfold Staged at h
  rwa [hs] at h

theorem Staged.writeMove (h : x.Staged) (hm : x.WriteMove x') : x'.Staged := by
  have hwriting {y : Exchange} (hs : x.stage = .writing) (hs' : y.stage = .writing)
      (hh : y.hold = x.hold) : y.Staged := by
    unfold Staged
    rw [hs', hh]
    exact h.held hs
  cases hm with
  | put hs hd hp hr => exact hwriting hs hs rfl
  | refused hs hd hp => exact hwriting hs hs rfl
  | flushed hs hd => exact hwriting hs hs rfl
  | shut hs hd => exact hwriting hs hs rfl
  | written hs hd => exact ⟨h.held hs, hd⟩
  | severed hs hd hk => exact ⟨h.held hs, hd, hk⟩
  | faulted hs hd hk => exact .faulted rfl hd hk
  | joined hs hc =>
    unfold Staged at h
    rw [hs] at h
    exact .joined h.1 h.2 hc

theorem Staged.callMove (h : x.Staged) (hm : x.CallMove c x') : x'.Staged := by
  unfold Staged at h ⊢
  rw [hm.stage, hm.hold, hm.delivery]
  cases hs : x.stage with
  | writing => rwa [hs] at h
  | joining fault => rwa [hs] at h
  | abandoned => rwa [hs] at h
  | done o =>
    rw [hs] at h
    cases h with
    | joined hh hw hc => exact .joined (hm.hold.trans hh) (hm.delivery ▸ hw) (hm.call_ended hc)
    | faulted hh hd hk => exact .faulted (hm.hold.trans hh) (hm.delivery.trans hd) hk

theorem Staged.move (h : x.Staged) (hm : x.Move x') : x'.Staged := by
  cases hm with
  | write hw => exact h.writeMove hw
  | call hc => exact h.callMove hc
  | abandon hs => rfl

theorem staged_run (capacity : Nat) (q : EngineRequest) (e : Entity) (es : List ExchangeEvent) :
    ((start capacity q e).run es).Staged := by
  have h := run_induction (P := fun x => x.Accounted e.chunks ∧ x.Staged)
    (fun _ h => h.1.part_ne_nil) (fun _ _ h hm => ⟨h.1.move hm, h.2.move hm⟩)
    ⟨accounted_start capacity q e, rfl⟩ es
  exact h.2

/-- The outcome of an entity that does not fail is made of the end of the call. A fault of the
writing is then a pipe whose reader is gone. -/
theorem joined_of_done (ha : x.Accounted cs) (h : x.Staged) (hcs : cs.failure? = none)
    {o : SendOutcome} (hs : x.stage = .done o) :
    ∃ fault how, Wrote x.delivery fault ∧ x.call = .ended how ∧ o = outcomeOf fault how := by
  unfold Staged at h
  rw [hs] at h
  cases h with
  | joined hh hw hc => exact ⟨_, _, hw, hc, rfl⟩
  | @faulted e hh hd hk =>
    have hu := hd ▸ ha.upTo
    rcases hu.2 with ⟨he, _⟩ | ⟨he, _⟩
    · rw [hcs] at he
      cases he
    · exact absurd (by rw [he]; rfl) hk

theorem outcome?_done {o : SendOutcome} (hs : x.stage = .done o) : x.outcome? = some o := by
  simp [outcome?, hs]

theorem stage_of_outcome? {o : SendOutcome} (h : x.outcome? = some o) : x.stage = .done o := by
  unfold outcome? at h
  split at h
  · rename_i o' hs
    cases h
    exact hs
  · cases h

/-! ## The way to the outcome -/

def writerLeft (x : Exchange) : Nat :=
  match x.stage with
  | .writing => x.delivery.left + 2
  | .joining _ => 1
  | _ => 0

theorem writerLeft_writing (hs : x.stage = .writing) : x.writerLeft = x.delivery.left + 2 := by
  simp [writerLeft, hs]

theorem writerLeft_joining {fault : Option IoError} (hs : x.stage = .joining fault) :
    x.writerLeft = 1 := by
  simp [writerLeft, hs]

theorem writerLeft_done {o : SendOutcome} (hs : x.stage = .done o) : x.writerLeft = 0 := by
  simp [writerLeft, hs]

theorem writerLeft_abandoned (hs : x.stage = .abandoned) : x.writerLeft = 0 := by
  simp [writerLeft, hs]

/-- A step of the writing side leaves less to do, and writes no more bytes than it leaves less. -/
theorem WriteMove.writerLeft_lt (hne : ∀ rest, x.delivery ≠ .writing [] rest)
    (h : x.WriteMove x') : x'.writerLeft < x.writerLeft ∧
      x'.writerLeft + x'.pipe.buffer.length ≤ x.writerLeft + x.pipe.buffer.length := by
  cases h with
  | @put part rest hs hd hp hr =>
    -- the only step that fills the buffer: what goes in comes off the delivery
    have hpos : 0 < part.length := List.length_pos_iff.2 fun e => hne rest (e ▸ hd)
    have htook : 0 < (part.take x.pipe.room).length := by
      rw [List.length_take]
      omega
    have hleft := @Delivery.left_took rest _ _ htook (List.length_take_le' _ _)
    simp only [writerLeft, hs, hd, Pipe.buffer_accept, List.length_append]
    omega
  | refused hs hd hp =>
    simp only [writerLeft, hs, hd, Delivery.left]
    omega
  | flushed hs hd =>
    simp only [writerLeft, hs, hd, Delivery.left]
    omega
  | shut hs hd =>
    simp only [writerLeft, hs, hd, Delivery.left, Pipe.buffer_shutdown]
    omega
  | written hs hd =>
    simp only [writerLeft, hs, Pipe.buffer_dropWriter]
    omega
  | severed hs hd hk =>
    simp only [writerLeft, hs, Pipe.buffer_dropWriter]
    omega
  | faulted hs hd hk =>
    simp only [writerLeft, hs, Pipe.buffer_dropWriter]
    omega
  | joined hs hc =>
    simp only [writerLeft, hs]
    omega

/-- Once the call has ended and its request body is gone, the writing side never has to wait. -/
theorem canWrite_of_ended (hne : ∀ rest, x.delivery ≠ .writing [] rest) {how : CallEnd}
    (hc : x.call = .ended how) (hr : x.pipe.readerGone = true) (hl : 0 < x.writerLeft) :
    ∃ x', x.write = some x' := by
  cases hw : x.write with
  | some x' => exact ⟨x', rfl⟩
  | none =>
    cases write_wait hne hw with
    | room hs hd hp hr' => simp [Pipe.refuses, hr] at hp
    | call hs hrun => exact absurd hc (hrun how)
    | done hs =>
      rw [writerLeft_done hs] at hl
      cases hl
    | abandoned hs =>
      rw [writerLeft_abandoned hs] at hl
      cases hl

theorem outcomeOf_error (fault : Option IoError) (err : EngineError) :
    outcomeOf fault (.returned (.error err)) = .error (.ofEngine err) := by
  cases fault <;> rfl

/-! ## Errors of the engine -/

/-- A run in which the caller never gives up. -/
def Kept (es : List ExchangeEvent) : Prop := ∀ e ∈ es, e ≠ .abandon

def writes (es : List ExchangeEvent) : Nat :=
  es.countP fun
    | .write => true
    | _ => false

theorem stage_ne_abandoned_step {e : ExchangeEvent} (he : e ≠ .abandon)
    (hne : ∀ rest, x.delivery ≠ .writing [] rest) (h : x.stage ≠ .abandoned) :
    (x.step e).stage ≠ .abandoned := by
  cases e with
  | write =>
    simp only [step]
    cases hw : x.write with
    | none => exact h
    | some x' => exact (write_move hne hw).stage_ne_abandoned
  | call e =>
    rcases x.callStep_move e with hc | hc
    · rwa [step, hc]
    · rwa [step, hc.stage]
  | abandon => exact absurd rfl he

/-- The call has ended and its request body is gone, and the caller still waits. -/
structure Concluded (cs : Chunks) (how : CallEnd) (x : Exchange) : Prop where
  account : x.Accounted cs
  staged : x.Staged
  call : x.call = .ended how
  readerGone : x.pipe.readerGone = true
  kept : x.stage ≠ .abandoned

namespace Concluded

variable {how : CallEnd}

theorem step (h : x.Concluded cs how) {e : ExchangeEvent} (he : e ≠ .abandon) :
    (x.step e).Concluded cs how := by
  have hkept := stage_ne_abandoned_step he h.account.part_ne_nil h.kept
  rcases step_move h.account.part_ne_nil e with hm | hm
  · rwa [hm]
  · exact ⟨h.account.move hm, h.staged.move hm, hm.call_ended h.call, hm.readerGone h.readerGone,
      hkept⟩

theorem left_write (h : x.Concluded cs how) :
    (x.step .write).writerLeft ≤ x.writerLeft - 1 := by
  simp only [Exchange.step]
  cases hw : x.write with
  | some x' =>
    have := (write_move h.account.part_ne_nil hw).writerLeft_lt h.account.part_ne_nil
    rw [Option.getD_some]
    omega
  | none =>
    have hzero : x.writerLeft = 0 := by
      refine Nat.eq_zero_of_not_pos fun hl => ?_
      obtain ⟨x', hw'⟩ := canWrite_of_ended h.account.part_ne_nil h.call h.readerGone hl
      rw [hw] at hw'
      cases hw'
    rw [Option.getD_none]
    omega

theorem run (h : x.Concluded cs how) {es : List ExchangeEvent} (hes : Kept es) :
    (x.run es).Concluded cs how ∧ (x.run es).writerLeft ≤ x.writerLeft - writes es := by
  induction es generalizing x with
  | nil => exact ⟨h, Nat.le_refl _⟩
  | cons e es ih =>
    have he : e ≠ .abandon := hes e List.mem_cons_self
    obtain ⟨hx, hl⟩ := ih (h.step he) fun e' he' => hes e' (List.mem_cons_of_mem e he')
    refine ⟨hx, ?_⟩
    show ((x.step e).run es).writerLeft ≤ x.writerLeft - writes (e :: es)
    cases e with
    | write =>
      have := h.left_write
      have hw : writes (.write :: es) = writes es + 1 := by simp [writes]
      omega
    | call e =>
      -- what happens in the call is no turn of the writing side, and leaves its work alone
      have hsame : (x.step (.call e)).writerLeft = x.writerLeft := by
        rcases x.callStep_move e with hc | hc
        · rw [Exchange.step, hc]
        · rw [Exchange.step, writerLeft, writerLeft, hc.stage, hc.delivery]
      have hw : writes (.call e :: es) = writes es := by simp [writes]
      omega
    | abandon => exact absurd rfl he

theorem done (h : x.Concluded cs how) (hl : x.writerLeft = 0) : ∃ o, x.stage = .done o := by
  cases hs : x.stage with
  | writing =>
    rw [writerLeft_writing hs] at hl
    cases hl
  | joining fault =>
    rw [writerLeft_joining hs] at hl
    cases hl
  | done o => exact ⟨o, rfl⟩
  | abandoned => exact absurd hs h.kept

end Concluded

/-- The request body of a call that is no longer under way is gone, or it was handed on. -/
def BodyGone (x : Exchange) : Prop :=
  x.call.isRunning = false → x.handedOn = true ∨ x.pipe.readerGone = true

theorem BodyGone.move (h : x.BodyGone) (hm : x.Move x') : x'.BodyGone := by
  cases hm with
  | write hw => cases hw <;> exact h
  | abandon hs => exact h
  | call hc =>
    cases hc with
    | asked ha => exact h
    | chunk hb he hne => exact h
    | ended hb he hne hs => exact h
    | cut hb he hne hs hw => exact h
    | handedOn hr hb hh => exact fun _ => .inl rfl
    | dropped hb => exact fun _ => .inr rfl
    | finished hr ha => exact fun _ => by cases hh : x.handedOn <;> simp [endCall, hh]
    | reaped hr hh => exact fun _ => by cases hh : x.handedOn <;> simp [endCall, hh]

theorem bodyGone_run (capacity : Nat) (q : EngineRequest) (e : Entity)
    (es : List ExchangeEvent) : ((start capacity q e).run es).BodyGone := by
  have h := run_induction (P := fun x => x.Accounted e.chunks ∧ x.BodyGone)
    (fun _ h => h.1.part_ne_nil) (fun _ _ h hm => ⟨h.1.move hm, h.2.move hm⟩)
    ⟨accounted_start capacity q e, fun h => nomatch h⟩ es
  exact h.2

theorem kept_run {es : List ExchangeEvent} (hes : Kept es) (ha : x.Accounted cs)
    (h : x.stage ≠ .abandoned) : (x.run es).stage ≠ .abandoned := by
  induction es generalizing x with
  | nil => exact h
  | cons e es ih =>
    have he : e ≠ .abandon := hes e List.mem_cons_self
    refine ih (fun e' he' => hes e' (List.mem_cons_of_mem e he')) ?_
      (stage_ne_abandoned_step he ha.part_ne_nil h)
    rcases step_move ha.part_ne_nil e with hm | hm
    · rwa [hm]
    · exact ha.move hm

theorem ofEngine_eq (err : EngineError) :
    ConnectorError.ofEngine err = if err = .cancelled then .interrupted else .sendFailure err := by
  cases err <;> rfl

theorem outcome_of_error (ha : x.Accounted cs) (hst : x.Staged) (hcs : cs.failure? = none)
    {err : EngineError} (hc : x.call = .ended (.returned (.error err))) {o : SendOutcome}
    (hs : x.stage = .done o) : o = .error (.ofEngine err) := by
  obtain ⟨fault, how, -, hc', ho⟩ := joined_of_done ha hst hcs hs
  rw [hc] at hc'
  cases hc'
  rw [ho, outcomeOf_error]

/-- **An error of the engine wins over the broken pipe.** Once the call has ended with an error, an
entity that does not fail by itself has no other outcome than that error. With the request body
gone, which goes with the call unless it was handed on, the outcome comes after as many turns of the
writing side as it has left, wherever the writing was. -/
theorem engine_error_wins (capacity : Nat) (q : EngineRequest) (e : Entity)
    (he : e.chunks.failure? = none) (es : List ExchangeEvent) (hes : Kept es) (err : EngineError)
    (hc : ((start capacity q e).run es).call = .ended (.returned (.error err))) :
    let x := (start capacity q e).run es
    let outcome : SendOutcome :=
      .error (if err = .cancelled then .interrupted else .sendFailure err)
    (∀ o, x.outcome? = some o → o = outcome) ∧
      (x.handedOn = false ∨ x.pipe.readerGone = true → ∀ es', Kept es' →
        x.writerLeft ≤ writes es' → (x.run es').outcome? = some outcome) := by
  intro x outcome
  have ha : x.Accounted e.chunks := accounted_run capacity q e es
  have hst : x.Staged := staged_run capacity q e es
  have houtcome : (.error (.ofEngine err) : SendOutcome) = outcome := by rw [ofEngine_eq]
  refine ⟨fun o ho => ?_, fun hbody es' hes' hw => ?_⟩
  · rw [outcome_of_error ha hst he hc (stage_of_outcome? ho), houtcome]
  · have hgone : x.pipe.readerGone = true := by
      rcases hbody with hh | hr
      · have := bodyGone_run capacity q e es (by rw [hc]; rfl)
        simpa [x, hh] using this
      · exact hr
    have hx : x.Concluded e.chunks (.returned (.error err)) :=
      ⟨ha, hst, hc, hgone, kept_run hes (accounted_start capacity q e) fun e => nomatch e⟩
    obtain ⟨hx', hl⟩ := hx.run hes'
    obtain ⟨o, ho⟩ := hx'.done (by omega)
    rw [outcome?_done ho, outcome_of_error hx'.account hx'.staged he hx'.call ho, houtcome]

/-- The engine is cancelled after one byte of three, while the writing side waits for room. -/
theorem engine_error_wins_blocked :
    let x := (start 0 (.get ⟨none, [], ['/'], none⟩ none) (.stream [.ok [1, 2], .ok [3]])).run
      [.call .ask, .write, .call .pull, .write, .write,
        .call (.finish (.returned (.error .cancelled)))]
    x.received = [1] ∧ x.pipe.room = 0 ∧ x.writerLeft = 6 ∧
      (x.run (List.replicate 6 .write)).outcome? = some (.error .interrupted) :=
  ⟨rfl, rfl, rfl,
    (engine_error_wins 0 (.get ⟨none, [], ['/'], none⟩ none) (.stream [.ok [1, 2], .ok [3]]) rfl
      [.call .ask, .write, .call .pull, .write, .write,
        .call (.finish (.returned (.error .cancelled)))]
      (by simp [Kept]) .cancelled rfl).2 (.inl rfl) (List.replicate 6 .write)
      (by simp [Kept]) (by decide)⟩

end Exchange
end EndpointClient
