import EndpointClient.Connector.Ticket

/-!
# EndpointClient.Proofs.Connector.Callback

What the callback of a request in the background hears, and when.

* `Dispatch.ended_step`: a request that has ended stays ended, in the way it did.
* `Ticket.Told t`: the task has ended if and only if its request has, the guard holds the callback
  until then, and the callback has heard what `DispatchEnd.told` says of that end. `told_run`: so it
  is in every run.
* `Told.dropped_tearDown`: a task that was asked to end and goes ends its request.
* `callback_exactly_once`: the callback is called once at most, and it has been called when the
  request has ended, whatever brought that about.
-/

namespace EndpointClient

/-! ## The end of a request is for good -/

namespace Dispatch

variable {d : Dispatch} {e : DispatchEnd}

theorem advance_of_ended (h : d.ended = some e) (now : Nat) : d.advance now = none := by
  simp [advance, h]

theorem ended_callStep (h : d.ended = some e) (now : Nat) (c : CallEvent) :
    (d.callStep now c).1.ended = some e := by
  have hsome : d.ended.isSome = true := by rw [h]; rfl
  cases hw : d.work with
  | unbegun => cases c <;> simpa [callStep, finishCall, hw] using h
  | inline q => cases c <;> simpa [callStep, finishCall, hw, hsome] using h
  | streamed x => cases c <;> simpa [callStep, finishCall, hw] using h

theorem abandon_of_ended (h : d.ended = some e) : d.abandon = d := by
  simp [abandon, h]

theorem ended_abandon (he : d.ended = none) : d.abandon.ended = some .dropped := by
  cases hw : d.work <;> simp [abandon, he, hw]

theorem ended_step (h : d.ended = some e) (now : Nat) (ev : DispatchEvent) :
    (d.step now ev).1.ended = some e := by
  cases ev with
  | advance => rwa [step, advance_of_ended h, Option.getD_none]
  | call c => exact ended_callStep h now c
  | abandon => rwa [step, abandon_of_ended h]

end Dispatch

/-! ## The callback of a ticket -/

/-- What the callback is told of the end of a request: the outcome, or else an interruption. -/
def DispatchEnd.told : DispatchEnd → SendOutcome
  | .completed o => o
  | .panicked _ => CallbackGuard.interruption
  | .dropped => CallbackGuard.interruption

/-- Only a completed request tells of a response. -/
theorem DispatchEnd.told_eq_ok {e : DispatchEnd} {resp : Http.Response} :
    e.told = .ok resp ↔ e = .completed (.ok resp) := by
  cases e <;> simp [told, CallbackGuard.interruption]

namespace CallbackGuard

theorem complete_armed {g : CallbackGuard} (h : g.armed = true) (o : SendOutcome) :
    g.complete o = { g with armed := false, heard := g.heard ++ [o] } := by
  simp [complete, drop, tell, h]

theorem drop_armed {g : CallbackGuard} (h : g.armed = true) :
    g.drop = { g with armed := false, heard := g.heard ++ [interruption] } := by
  simp [drop, tell, h]

end CallbackGuard

namespace Ticket

variable {t : Ticket}

/-- The callback has heard of the end of the request, if it has ended, and nothing else. -/
structure Told (t : Ticket) : Prop where
  ended : t.ended.isSome = t.dispatch.ended.isSome
  armed : t.guard.armed = t.ended.isNone
  heard : t.heard = (t.dispatch.ended.map DispatchEnd.told).toList

theorem told_start (mode : SendMode) (capacity : Nat) (r : ClientRequest)
    (breaks : SendOutcome → Option String) : (start mode capacity r breaks).Told :=
  ⟨rfl, rfl, rfl⟩

theorem dispatch_settle (t : Ticket) (e : DispatchEnd) : (t.settle e).dispatch = t.dispatch := by
  cases e <;> rfl

theorem dispatch_withDispatch (t : Ticket) (d : Dispatch) : (t.withDispatch d).dispatch = d := by
  unfold withDispatch
  cases t.ended with
  | some _ => rfl
  | none =>
    cases d.ended with
    | none => rfl
    | some e => exact dispatch_settle _ e

theorem ended_settle (t : Ticket) (e : DispatchEnd) : (t.settle e).ended.isSome = true := by
  cases e <;> rfl

theorem ended_eq_none_iff (h : t.ended.isSome = t.dispatch.ended.isSome) :
    t.ended = none ↔ t.dispatch.ended = none := by
  rw [← Option.isNone_iff_eq_none, ← Option.not_isSome, h, Option.not_isSome,
    Option.isNone_iff_eq_none]

/-- Going on with a request settles the ticket if that ends the request, and does nothing more. -/
theorem withDispatch_cases (h : t.ended.isSome = t.dispatch.ended.isSome) {d : Dispatch}
    (hd : ∀ e, t.dispatch.ended = some e → d.ended = some e) :
    t.withDispatch d = { t with dispatch := d } ∧ d.ended = t.dispatch.ended ∨
      ∃ e, t.ended = none ∧ d.ended = some e ∧
        t.withDispatch d = ({ t with dispatch := d } : Ticket).settle e := by
  cases ht : t.ended with
  | some _ =>
    obtain ⟨e, he⟩ : ∃ e, t.dispatch.ended = some e := by
      rw [← Option.isSome_iff_exists, ← h, ht]
      rfl
    exact .inl ⟨by simp [withDispatch, ht], by rw [hd e he, he]⟩
  | none =>
    cases he : d.ended with
    | none => exact .inl ⟨by simp [withDispatch, ht, he], ((ended_eq_none_iff h).1 ht).symm⟩
    | some e => exact .inr ⟨e, rfl, rfl, by simp [withDispatch, ht, he]⟩

/-- A task that is over calls its callback once, whether it hands over an outcome or just goes. -/
theorem guard_settle (ha : t.guard.armed = true) (e : DispatchEnd) :
    (t.settle e).guard = { t.guard with armed := false, heard := t.guard.heard ++ [e.told] } := by
  cases e with
  | completed o => exact CallbackGuard.complete_armed ha o
  | panicked text => exact CallbackGuard.drop_armed ha
  | dropped => exact CallbackGuard.drop_armed ha

theorem told_settle (ha : t.guard.armed = true) (hh : t.heard = []) {e : DispatchEnd}
    (he : t.dispatch.ended = some e) : (t.settle e).Told where
  ended := by rw [ended_settle, dispatch_settle, he]; rfl
  armed := by
    have hended := ended_settle t e
    rw [guard_settle ha]
    cases ht : (t.settle e).ended with
    | none => simp [ht] at hended
    | some _ => rfl
  heard := by
    have hheard : t.guard.heard = [] := hh
    rw [Ticket.heard, guard_settle ha, dispatch_settle, he, hheard]
    rfl

namespace Told

theorem waiting (h : t.Told) (he : t.ended = none) :
    t.guard.armed = true ∧ t.heard = [] ∧ t.dispatch.ended = none := by
  have hd : t.dispatch.ended = none := (ended_eq_none_iff h.ended).1 he
  refine ⟨?_, ?_, hd⟩
  · rw [h.armed, he]
    rfl
  · rw [h.heard, hd]
    rfl

theorem dispatch_ended (h : t.Told) (ht : t.ended.isSome = true) :
    ∃ e, t.dispatch.ended = some e :=
  Option.isSome_iff_exists.1 (h.ended ▸ ht)

/-- Going on with a request tells the callback of its end, the first time that it has one. -/
theorem withDispatch (h : t.Told) {d : Dispatch}
    (hd : ∀ e, t.dispatch.ended = some e → d.ended = some e) : (t.withDispatch d).Told := by
  rcases withDispatch_cases h.ended hd with ⟨hwith, hsame⟩ | ⟨e, ht, he, hwith⟩
  · rw [hwith]
    exact ⟨h.ended.trans (by rw [hsame]), h.armed, h.heard.trans (by rw [hsame])⟩
  · obtain ⟨ha, hh, -⟩ := h.waiting ht
    rw [hwith]
    exact told_settle (t := { t with dispatch := d }) ha hh he

theorem tearDown (h : t.Told) : t.tearDown.Told := by
  unfold Ticket.tearDown
  split
  · exact h.withDispatch fun e he => by rwa [Dispatch.abandon_of_ended he]
  · exact h

/-- A task that was asked to end and goes ends its request, and the callback hears of it. -/
theorem dropped_tearDown (h : t.Told) (hc : t.cancelled = true) (he : t.dispatch.ended = none) :
    t.tearDown.dispatch.ended = some .dropped ∧
      t.tearDown.heard = [CallbackGuard.interruption] := by
  have hdispatch : t.tearDown.dispatch.ended = some .dropped := by
    have hgoes : (t.cancelled && t.ended.isNone) = true := by
      rw [hc, (ended_eq_none_iff h.ended).2 he]
      rfl
    rw [Ticket.tearDown, if_pos hgoes, dispatch_withDispatch, Dispatch.ended_abandon he]
  refine ⟨hdispatch, ?_⟩
  rw [h.tearDown.heard, hdispatch]
  rfl

theorem cancel (h : t.Told) : t.cancel.Told := by
  unfold Ticket.cancel
  split
  · exact ⟨h.ended, h.armed, h.heard⟩
  · exact h

theorem step (h : t.Told) (now : Nat) (ev : TicketEvent) : (t.step now ev).1.Told := by
  cases ev with
  | advance =>
    simp only [Ticket.step, proceed]
    split
    · exact h
    · cases ha : t.dispatch.advance now with
      | none => exact h
      | some dj =>
        refine h.withDispatch fun e he => ?_
        rw [Dispatch.advance_of_ended he] at ha
        cases ha
  | call c => exact h.withDispatch fun e he => Dispatch.ended_callStep he now c
  | cancel => exact h.cancel
  | dropHandle => exact ⟨h.ended, h.armed, h.heard⟩
  | tearDown => exact h.tearDown

end Told

theorem told_run (h : t.Told) (es : List (Nat × TicketEvent)) : (t.run es).1.Told := by
  induction es generalizing t with
  | nil => exact h
  | cons e es ih => exact ih (h.step e.1 e.2)

/-- **Exactly one call of the callback.** Whatever the engine does, and whenever the request is
cancelled, its task is torn down or the handle is dropped: the callback has been called once at most,
and once if the request has ended, be it completed, broken down or dropped; and that is when the task
has finished. What it has heard is what is told of that end, so a response only if the request was
completed with that response. A request that has not ended can be cancelled as long as there is a
handle, and when its task goes then, that is its end, and the callback hears of an interruption. -/
theorem callback_exactly_once (capacity : Nat) (r : ClientRequest)
    (breaks : SendOutcome → Option String) (es : List (Nat × TicketEvent)) :
    let t := ((start .async capacity r breaks).run es).1
    t.heard.length ≤ 1 ∧
    (t.dispatch.ended.isSome = true ↔ t.heard.length = 1) ∧
    t.isFinished = t.dispatch.ended.isSome ∧
    (∀ e, t.dispatch.ended = some e → t.heard = [e.told]) ∧
    (∀ resp, .ok resp ∈ t.heard ↔ t.dispatch.ended = some (.completed (.ok resp))) ∧
    (t.dispatch.ended = none → (t.handle = true → t.cancel.cancelled = true) ∧
      (t.cancelled = true → t.tearDown.dispatch.ended = some .dropped ∧
        t.tearDown.isFinished = true ∧ t.tearDown.heard = [CallbackGuard.interruption])) := by
  intro t
  have h : t.Told := told_run (told_start .async capacity r breaks) es
  have hfinished : t.isFinished = t.dispatch.ended.isSome := h.ended
  refine ⟨?_, ?_, hfinished, fun e he => ?_, fun resp => ?_, fun he => ⟨fun hh => ?_, fun hc => ?_⟩⟩
  · rw [h.heard]
    cases t.dispatch.ended <;> simp
  · rw [h.heard]
    cases t.dispatch.ended <;> simp
  · rw [h.heard, he]
    rfl
  · rw [h.heard]
    cases t.dispatch.ended with
    | none => simp
    | some e => simp [← DispatchEnd.told_eq_ok, eq_comm]
  · rw [Ticket.cancel, hh, (ended_eq_none_iff h.ended).2 he]
    rfl
  · obtain ⟨hdropped, hheard⟩ := h.dropped_tearDown hc he
    refine ⟨hdropped, ?_, hheard⟩
    rw [isFinished, h.tearDown.ended, hdropped]
    rfl

/-- A request waits for the engine. It is cancelled and its task goes, or it is answered before that
and cancelled too late. -/
theorem callback_exactly_once_cancelled :
    let answer : Http.Response := ⟨.ok, .empty, []⟩
    let run := ((start .async 1 (.new .get ⟨none, [], ['/'], none⟩) CallbackGuard.neverBreaks).run ·)
    let t := (run [(0, .advance), (1, .cancel)]).1
    let t' := (run [(0, .advance), (1, .call (.finish (.returned (.ok answer)))), (1, .cancel),
      (2, .tearDown)]).1
    t.heard = [] ∧ t.tearDown.isFinished = true ∧
      t.tearDown.heard = [CallbackGuard.interruption] ∧ .ok answer ∈ t'.heard ∧
      t'.heard.length = 1 := by
  intro answer run t t'
  have hended : t.dispatch.ended = none := rfl
  have hended' : t'.dispatch.ended = some (.completed (.ok answer)) := rfl
  obtain ⟨-, -, -, -, -, hcancel⟩ := callback_exactly_once 1 (.new .get ⟨none, [], ['/'], none⟩)
    CallbackGuard.neverBreaks [(0, .advance), (1, .cancel)]
  obtain ⟨-, honce, -, -, hresponse, -⟩ := callback_exactly_once 1
    (.new .get ⟨none, [], ['/'], none⟩) CallbackGuard.neverBreaks [(0, .advance),
      (1, .call (.finish (.returned (.ok answer)))), (1, .cancel), (2, .tearDown)]
  obtain ⟨-, hfinished, hheard⟩ := (hcancel hended).2 rfl
  exact ⟨rfl, hfinished, hheard, (hresponse answer).2 hended', honce.1 rfl⟩

/-- A request that is cancelled before it begins, and once more when it is over. -/
example : ((start .async 1 (.new .get ⟨none, [], ['/'], none⟩) CallbackGuard.neverBreaks).run
    [(0, .cancel), (0, .tearDown), (1, .cancel)]).1.heard = [CallbackGuard.interruption] := rfl

end Ticket
end EndpointClient
