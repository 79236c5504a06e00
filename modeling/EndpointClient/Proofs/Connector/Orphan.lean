import EndpointClient.Proofs.Connector.Handle
import EndpointClient.Proofs.Connector.Rule

/-!
# EndpointClient.Proofs.Connector.Orphan

No call of an engine is left behind: what becomes of its task when the request is over.

* `Exchange.Tended cs x`: with the books of an exchange (`Accounted`, `Staged`) goes that its call is
  dropped only after it was told to stop, and that its body breaks in one way alone.
  `Tended.move`: no move breaks it, the caller giving up included.
* `Dispatch.Streams r e d`: a request with an entity has ended if and only if its exchange has, and
  in the same way. `streams_run`: so it is in every run.
* `Dispatch.streamed_of_ended`: once a request has ended, nobody takes another hold on its call.
* `Ticket.dispatch_run`: a request in the background goes through a run of a request.
* `no_orphaned_call`: the call of a request that was dropped has ended or is told to stop; the call
  of one that came to an outcome has ended, unless the entity failed by itself. Then it is left to
  run on alone, with a body that can only break.
-/

namespace EndpointClient

open Http (Chunks)

namespace Exchange

variable {cs : Chunks} {x x' : Exchange} {c : CallEvent}

structure Tended (cs : Chunks) (x : Exchange) : Prop where
  account : x.Accounted cs
  staged : x.Staged
  told : x.call = .dropped → x.hold = .aborted
  cut : ∀ err, x.bodyEnd = some (.broken err) → err = .truncated

theorem tended_start (capacity : Nat) (q : EngineRequest) (e : Entity) :
    (start capacity q e).Tended e.chunks where
  account := accounted_start capacity q e
  staged := rfl
  told h := by cases h
  cut _ h := by cases h

namespace Tended

theorem writeMove (h : x.Tended cs) (hm : x.WriteMove x') : x'.Tended cs where
  account := h.account.writeMove hm
  staged := h.staged.writeMove hm
  told hc := by
    rw [hm.call] at hc
    cases hm with
    | faulted hs hd hk =>
      -- who still writes has a hold on the call, which is therefore not dropped
      have hheld := h.staged.held hs
      rw [h.told hc] at hheld
      cases hheld
    | put hs hd hp hr => exact h.told hc
    | refused hs hd hp => exact h.told hc
    | flushed hs hd => exact h.told hc
    | shut hs hd => exact h.told hc
    | written hs hd => exact h.told hc
    | severed hs hd hk => exact h.told hc
    | joined hs hc' => exact h.told hc
  cut := by rw [hm.bodyEnd]; exact h.cut

theorem callMove (h : x.Tended cs) (hm : x.CallMove c x') : x'.Tended cs where
  account := h.account.callMove hm
  staged := h.staged.callMove hm
  told hc := by
    rw [hm.hold]
    cases hm with
    | finished hr ha => cases hc
    | reaped hr hh => exact hh
    | asked ha => exact h.told hc
    | chunk hb he hne => exact h.told hc
    | ended hb he hne hs => exact h.told hc
    | cut hb he hne hs hw => exact h.told hc
    | handedOn hr hb hh => exact h.told hc
    | dropped hb => exact h.told hc
  cut err hb := by
    cases hm with
    | ended hb' he hne hs => cases hb
    | cut hb' he hne hs hw =>
      cases hb
      rfl
    | asked ha => exact h.cut err hb
    | chunk hb' he hne => exact h.cut err hb
    | handedOn hr hb' hh => exact h.cut err hb
    | dropped hb' => exact h.cut err hb
    | finished hr ha => exact h.cut err hb
    | reaped hr hh => exact h.cut err hb

theorem move (h : x.Tended cs) (hm : x.Move x') : x'.Tended cs := by
  cases hm with
  | write hw => exact h.writeMove hw
  | call hc => exact h.callMove hc
  | abandon hs => exact ⟨h.account.move (.abandon hs), rfl, fun _ => rfl, h.cut⟩

theorem abandon (h : x.Tended cs) : x.abandon.Tended cs := by
  rcases x.abandon_move with hsame | hm
  · rwa [hsame]
  · exact h.move hm

/-- Of a writing that has failed by a fault of the entity the outcome is that fault, and the call is
left alone; of any other the call has ended. -/
theorem of_done (h : x.Tended cs) {o : SendOutcome} (hs : x.stage = .done o) :
    ((∀ err, x.delivery = .failed err → err.kind = .brokenPipe) → ∃ how, x.call = .ended how) ∧
      ∀ err, x.delivery = .failed err → err.kind ≠ .brokenPipe →
        x.hold = .detached ∧ o = .error (.streamingFailure err) := by
  have hst := h.staged
  unfold Staged at hst
  rw [hs] at hst
  cases hst with
  | @joined fault how hh hw hc =>
    refine ⟨fun _ => ⟨how, hc⟩, fun err hd hk => ?_⟩
    cases fault with
    | none => cases hd.symm.trans hw
    | some e =>
      cases hd.symm.trans hw.1
      exact absurd hw.2 hk
  | @faulted e hh hd hk =>
    refine ⟨fun hall => absurd (hall e hd) hk, fun err hd' _ => ?_⟩
    cases hd.symm.trans hd'
    exact ⟨hh, rfl⟩

/-- The body of an entity that failed ends in no other way than by a break, and reading it never
has to wait once the writing side is gone. -/
theorem broken_body (h : x.Tended cs) {o : SendOutcome} (hs : x.stage = .done o) {err : IoError}
    (hd : x.delivery = .failed err) :
    (x.bodyEnd = none ∨ x.bodyEnd = some (.broken .truncated)) ∧
      (x.bodyHeld = true → x.bodyEnd = none → x.pull.2 =
        if x.pipe.buffer = [] then .failed .truncated else .chunk x.pipe.buffer) := by
  have hne : x.delivery ≠ .finished := hd ▸ fun e => by cases e
  have hshut := h.account.not_shut hne
  have hgone : x.pipe.writerGone = true := by
    rw [← Bool.not_eq_false, h.account.open_iff, hs]
    exact fun e => by cases e
  constructor
  · cases hb : x.bodyEnd with
    | none => exact .inl rfl
    | some b =>
      cases b with
      | clean => exact absurd hb (h.account.not_clean hne)
      | broken e => rw [h.cut e hb]; exact .inr rfl
  · intro hb he
    by_cases hbuf : x.pipe.buffer = []
    · simp [pull, hb, he, Pipe.pull_cut hbuf hshut hgone, hbuf]
    · simp [pull, hb, he, Pipe.pull_buffered hbuf, hbuf]

end Tended

/-- A call that was told to stop is over, or goes when it is next looked at. -/
theorem reap_of_aborted (hh : x.hold = .aborted) : x.reap.call.isRunning = false := by
  cases hc : x.call.isRunning with
  | true =>
    simp only [reap, hc, hh, decide_true, Bool.and_self, if_true]
    rfl
  | false => simp [reap, hc]

/-- An engine is not asked on behalf of a request that was given up. -/
theorem CallMove.asked_of_aborted (hm : x.CallMove c x') (hh : x.hold = .aborted) :
    x'.asked = x.asked := by
  cases hm with
  | asked ha => simp [awaitsAsk, hh] at ha
  | chunk hb he hne => rfl
  | ended hb he hne hs => rfl
  | cut hb he hne hs hw => rfl
  | handedOn hr hb hh => rfl
  | dropped hb => rfl
  | finished hr ha => rfl
  | reaped hr hh => rfl

end Exchange

/-- How a request has ended whose exchange is at a stage. -/
def ExchangeStage.ended? : ExchangeStage → Option DispatchEnd
  | .done o => some (.completed o)
  | .abandoned => some .dropped
  | _ => none

namespace ExchangeStage

theorem eq_done {s : ExchangeStage} {o : SendOutcome} (h : s.ended? = some (.completed o)) :
    s = .done o := by
  cases s with
  | done o' =>
    cases h
    rfl
  | writing | joining | abandoned => cases h

theorem eq_abandoned {s : ExchangeStage} (h : s.ended? = some .dropped) : s = .abandoned := by
  cases s with
  | abandoned => rfl
  | writing | joining | done => cases h

end ExchangeStage

theorem Exchange.ended?_abandon {x : Exchange} (h : x.stage.ended? = none) :
    x.abandon.stage.ended? = some .dropped := by
  unfold abandon
  cases hs : x.stage with
  | writing => rfl
  | joining fault => rfl
  | done o => simp [hs, ExchangeStage.ended?] at h
  | abandoned => simp [hs, ExchangeStage.ended?] at h

namespace Dispatch

variable {r : ClientRequest} {e : Entity} {d d' : Dispatch} {now : Nat} {ev : DispatchEvent}

/-- A request with an entity: it is still to begin, or was dropped before it began, or it has ended
if and only if its exchange has, and in the same way. -/
inductive Streams (r : ClientRequest) (e : Entity) (d : Dispatch) : Prop where
  | unbegun (hw : d.work = .unbegun) (hr : d.request = r)
      (he : d.ended = none ∨ d.ended = some .dropped)
  | streamed {x : Exchange} (hw : d.work = .streamed x) (hx : x.Tended e.chunks)
      (he : d.ended = x.stage.ended?)

theorem streams_start (mode : SendMode) (capacity : Nat) (r : ClientRequest) (e : Entity) :
    (start mode capacity r).Streams r e :=
  .unbegun rfl rfl (.inl rfl)

namespace Streams

theorem change (h : d.Streams r e) (hr : r.entity = some e) (hc : d.Change now ev d') :
    d'.Streams r e := by
  cases h with
  | unbegun hw hd he =>
    cases hc with
    | begun hw' he' =>
      have hwork : (d.begin now).work = .streamed (.start d.capacity r.engineRequest e) := by
        simp [begin, hd, hr]
      exact .streamed hwork (Exchange.tended_start _ _ _) he'
    | dropped hw' he' => exact .unbegun hw hd (.inr rfl)
    | wrote hw' | concluded hw' | called hw' | returned _ hw' | brokeDown _ hw' | cutOff hw' =>
      cases hw.symm.trans hw'
  | @streamed x hw hx he =>
    cases hc with
    | @wrote _ x' hw' he' hwrite ho =>
      cases hw.symm.trans hw'
      have hmove := Exchange.write_move hx.account.part_ne_nil hwrite
      refine .streamed rfl (hx.writeMove hmove) (he'.trans ?_)
      cases hs : x'.stage with
      | writing => rfl
      | joining fault => rfl
      | done o => rw [Exchange.outcome?_done hs] at ho; cases ho
      | abandoned => exact absurd hs hmove.stage_ne_abandoned
    | @concluded _ x' o hw' he' hwrite ho =>
      cases hw.symm.trans hw'
      have hmove := Exchange.write_move hx.account.part_ne_nil hwrite
      refine .streamed rfl (hx.writeMove hmove) ?_
      rw [Exchange.stage_of_outcome? ho]
      rfl
    | called hw' hmove =>
      cases hw.symm.trans hw'
      exact .streamed rfl (hx.callMove hmove) (by rw [hmove.stage]; exact he)
    | cutOff hw' he' =>
      cases hw.symm.trans hw'
      exact .streamed rfl hx.abandon (Exchange.ended?_abandon (he.symm.trans he')).symm
    | dropped hw' he' => exact absurd hw (hw' x)
    | begun hw' | returned _ hw' | brokeDown _ hw' => cases hw.symm.trans hw'

theorem run (h : d.Streams r e) (hr : r.entity = some e) (es : List (Nat × DispatchEvent)) :
    (d.run es).1.Streams r e :=
  run_induction (P := fun d => d.Streams r e) (fun _ _ _ _ h hc => h.change hr hc) h es

theorem ended_completed (h : d.Streams r e) {o : SendOutcome}
    (ho : d.ended = some (.completed o)) :
    ∃ x, d.work = .streamed x ∧ x.Tended e.chunks ∧ x.stage = .done o := by
  cases h with
  | unbegun hw hd he => rcases he with he | he <;> cases ho.symm.trans he
  | @streamed x hw hx he => exact ⟨x, hw, hx, ExchangeStage.eq_done (he.symm.trans ho)⟩

/-- The call of a request that was dropped is told to stop, where there is one. -/
theorem aborted_of_dropped (h : d.Streams r e) (hd : d.ended = some .dropped) :
    ∀ x, d.work = .streamed x → x.hold = .aborted := by
  intro x hw'
  cases h with
  | unbegun hw hr he => cases hw.symm.trans hw'
  | @streamed y hw hx he =>
    cases hw.symm.trans hw'
    have hst := hx.staged
    unfold Exchange.Staged at hst
    rwa [ExchangeStage.eq_abandoned (he.symm.trans hd)] at hst

end Streams

/-! ## After the end -/

theorem streamed_of_ended {o : DispatchEnd} (ho : d.ended = some o) {x : Exchange}
    (hw : d.work = .streamed x) (es : List (Nat × DispatchEvent)) :
    ∃ x', (d.run es).1.work = .streamed x' ∧ x'.hold = x.hold ∧ x'.delivery = x.delivery := by
  have h := run_induction (P := fun d => d.ended = some o ∧
    ∃ x', d.work = .streamed x' ∧ x'.hold = x.hold ∧ x'.delivery = x.delivery)
    (fun d d' now ev h hc => ?_) ⟨ho, x, hw, rfl, rfl⟩ es
  · exact h.2
  · obtain ⟨hended, x', hw', hh, hd⟩ := h
    obtain ⟨y, y', c, hy, hmove, rfl⟩ := hc.of_ended hended
    cases hw'.symm.trans hy
    exact ⟨hended, y', rfl, hmove.hold.trans hh, hmove.delivery.trans hd⟩

/-- On behalf of a request that was dropped the engine is asked nothing any more. -/
theorem asked_of_dropped (h : d.Streams r e) (hr : r.entity = some e)
    (hd : d.ended = some .dropped) (es : List (Nat × DispatchEvent)) :
    (d.run es).1.asked = d.asked := by
  have hrun := run_induction (P := fun d' => d'.Streams r e ∧ d'.ended = some .dropped ∧
    d'.asked = d.asked) (fun d₁ d₂ now ev h₁ hc => ?_) ⟨h, hd, rfl⟩ es
  · exact hrun.2.2
  · obtain ⟨hs, hended, hasked⟩ := h₁
    have hs' := hs.change hr hc
    obtain ⟨x, x', c, hw, hmove, rfl⟩ := hc.of_ended hended
    refine ⟨hs', hended, Eq.trans ?_ hasked⟩
    simp only [asked, hw]
    exact hmove.asked_of_aborted (hs.aborted_of_dropped hended x hw)

theorem callLives_of_aborted (h : ∀ x, d.work = .streamed x → x.hold = .aborted) :
    d.callLives = false := by
  unfold callLives
  cases hw : d.work with
  | streamed x => simp [h x hw]
  | unbegun => rfl
  | inline q => rfl

end Dispatch

/-! ## In the background -/

namespace Ticket

/-- A request in the background goes through a run of a request. -/
theorem dispatch_run (t : Ticket) (ts : List (Nat × TicketEvent)) :
    ∃ es, (t.run ts).1.dispatch = (t.dispatch.run es).1 := by
  induction ts generalizing t with
  | nil => exact ⟨[], rfl⟩
  | cons u ts ih =>
    obtain ⟨es, hes⟩ := ih (t.step u.1 u.2).1
    rcases t.step_cases u.1 u.2 with ⟨ev, hstep, -⟩ | ⟨hsame, -, -⟩
    · refine ⟨(u.1, ev) :: es, hes.trans ?_⟩
      rw [hstep, dispatch_withDispatch]
      rfl
    · exact ⟨es, hes.trans (by rw [hsame])⟩

end Ticket

/-- **No call is left behind.** Whatever the engine does: a request with an entity can be dropped
wherever it is, and a handle that is cancelled drops it there. From then on its call has ended or is
told to stop: the engine is asked nothing any more, and a call that still runs goes when it is next
looked at.

The call of a request that came to an outcome has ended, unless the entity failed with an error of
another kind than that of a broken pipe. Then nobody tells it to stop: it runs on alone, and its
request body can end in no other way than by a break. -/
theorem no_orphaned_call (mode : SendMode) (capacity : Nat) (r : ClientRequest) (e : Entity)
    (hr : r.entity = some e) :
    (∀ es : List (Nat × DispatchEvent),
      let d := ((Dispatch.start mode capacity r).run es).1
      (d.ended = none → ∀ now, (d.step now .abandon).1.ended = some .dropped) ∧
      (d.ended = some .dropped → ∀ es',
        let d' := (d.run es').1
        d'.callLives = false ∧ d'.asked = d.asked ∧
          ∀ x, d'.work = .streamed x → x.reap.call.isRunning = false) ∧
      ∀ o, d.ended = some (.completed o) → ∃ x, d.work = .streamed x ∧
        ((∀ err, x.delivery = .failed err → err.kind = .brokenPipe) → ∃ how, x.call = .ended how) ∧
        ∀ err, x.delivery = .failed err → err.kind ≠ .brokenPipe →
          o = .error (.streamingFailure err) ∧ ∀ es', ∃ x', (d.run es').1.work = .streamed x' ∧
            x'.hold = .detached ∧ x'.call ≠ .dropped ∧
            (x'.bodyEnd = none ∨ x'.bodyEnd = some (.broken .truncated)) ∧
            (x'.bodyHeld = true → x'.bodyEnd = none → x'.pull.2 =
              if x'.pipe.buffer = [] then .failed .truncated else .chunk x'.pipe.buffer)) ∧
    ∀ (breaks : SendOutcome → Option String) (ts : List (Nat × TicketEvent)),
      let t := ((Ticket.start mode capacity r breaks).run ts).1
      (∃ es, t.dispatch = ((Dispatch.start mode capacity r).run es).1) ∧
        (t.cancelled = true → t.ended = none → ∀ now,
          (t.step now .tearDown).1.dispatch.ended = some .dropped) := by
  refine ⟨fun es => ?_, fun breaks ts => ?_⟩
  · intro d
    have hd : d.Streams r e := (Dispatch.streams_start mode capacity r e).run hr es
    refine ⟨fun he now => Dispatch.ended_abandon he, fun he es' => ?_, fun o ho => ?_⟩
    · intro d'
      have haborted := (hd.run hr es').aborted_of_dropped (Dispatch.ended_run he es')
      exact ⟨Dispatch.callLives_of_aborted haborted, Dispatch.asked_of_dropped hd hr he es',
        fun x hw => Exchange.reap_of_aborted (haborted x hw)⟩
    · obtain ⟨x, hw, hx, hs⟩ := hd.ended_completed ho
      obtain ⟨hended, hdetached⟩ := hx.of_done hs
      refine ⟨x, hw, hended, fun err hf hk => ⟨(hdetached err hf hk).2, fun es' => ?_⟩⟩
      obtain ⟨x', hw', hh, hdel⟩ := Dispatch.streamed_of_ended ho hw es'
      obtain ⟨y, hy, hx', hs'⟩ := (hd.run hr es').ended_completed (Dispatch.ended_run ho es')
      cases hw'.symm.trans hy
      have hhold : x'.hold = .detached := hh.trans (hdetached err hf hk).1
      refine ⟨x', hw', hhold, fun hc => ?_, hx'.broken_body hs' (hdel.trans hf)⟩
      cases hhold.symm.trans (hx'.told hc)
  · intro t
    refine ⟨Ticket.dispatch_run _ ts, fun hc he now => ?_⟩
    have htold : t.Told := Ticket.told_run (Ticket.told_start mode capacity r breaks) ts
    exact (htold.dropped_tearDown hc (htold.waiting he).2.2).1

/-- A byte is written, and then the entity fails: the call is left to run on. The same request,
dropped while the byte waits to be read. -/
theorem no_orphaned_call_failing :
    let r : ClientRequest := ⟨.get, ⟨none, [], ['/'], none⟩, .empty, {},
      some (.stream [.ok [1], .error ⟨.invalidData, "no more"⟩])⟩
    let es : List (Nat × DispatchEvent) := [(0, .advance), (1, .call .ask), (2, .advance)]
    let d := ((Dispatch.start .sync 1 r).run (es ++ [(3, .advance)])).1
    let d' := ((Dispatch.start .sync 1 r).run (es ++ [(3, .abandon)])).1
    (d.ended = some (.completed (.error (.streamingFailure ⟨.invalidData, "no more"⟩))) ∧
      ∀ es', ∃ x, (d.run es').1.work = .streamed x ∧ x.hold = .detached ∧
        x.bodyEnd ≠ some .clean) ∧
    d'.ended = some .dropped ∧ ∀ es', (d'.run es').1.callLives = false := by
  intro r es d d'
  obtain ⟨hrun, -⟩ := no_orphaned_call .sync 1 r
    (.stream [.ok [1], .error ⟨.invalidData, "no more"⟩]) rfl
  refine ⟨⟨rfl, fun es' => ?_⟩, rfl, fun es' => ((hrun _).2.1 rfl es').1⟩
  obtain ⟨x, hw, -, hdetached⟩ := (hrun (es ++ [(3, .advance)])).2.2 _ rfl
  cases hw
  obtain ⟨x', hw', hh, -, hb, -⟩ := (hdetached ⟨.invalidData, "no more"⟩ rfl (by decide)).2 es'
  refine ⟨x', hw', hh, fun hc => ?_⟩
  rcases hb with hb | hb <;> cases hc.symm.trans hb

end EndpointClient
