import EndpointClient.Proofs.Connector.Callback
import EndpointClient.Proofs.Connector.Move

/-!
# EndpointClient.Proofs.Connector.Change

What an event does to a request.

* `Dispatch.Change d now ev d'` has a case for everything that `ev` can do at the time `now`, with all
  that it takes for it. `step_change`: a step changes nothing, or it is one of these. What is to
  hold in every run is therefore that no change breaks it (`run_induction`).
* `Change.panicked`: nothing breaks a request down but the call of the engine.
* `Change.of_ended`: once a request has ended, nothing goes on but the call of the engine.
-/

namespace EndpointClient
namespace Dispatch

variable {d d' : Dispatch} {x : Exchange} {now : Nat} {ev : DispatchEvent}

inductive Change (d : Dispatch) (now : Nat) : DispatchEvent → Dispatch → Prop where
  | begun (hw : d.work = .unbegun) (he : d.ended = none) : Change d now .advance (d.begin now)
  | wrote {x x' : Exchange} (hw : d.work = .streamed x) (he : d.ended = none)
      (hx : x.write = some x') (ho : x'.outcome? = none) :
      Change d now .advance { d with work := .streamed x' }
  | concluded {x x' : Exchange} {o : SendOutcome} (hw : d.work = .streamed x)
      (he : d.ended = none) (hx : x.write = some x') (ho : x'.outcome? = some o) :
      Change d now .advance { d with work := .streamed x', ended := some (.completed o) }
  | called {x x' : Exchange} {c : CallEvent} (hw : d.work = .streamed x) (hx : x.CallMove c x') :
      Change d now (.call c) { d with work := .streamed x' }
  | returned {q : EngineRequest} (result : Except EngineError Http.Response)
      (hw : d.work = .inline q) (he : d.ended = none) :
      Change d now (.call (.finish (.returned result)))
        { d with ended := some (.completed (CallEnd.returned result).outcome) }
  | brokeDown {q : EngineRequest} (text : String) (hw : d.work = .inline q)
      (he : d.ended = none) :
      Change d now (.call (.finish (.panicked text))) { d with ended := some (.panicked text) }
  | cutOff {x : Exchange} (hw : d.work = .streamed x) (he : d.ended = none) :
      Change d now .abandon { d with work := .streamed x.abandon, ended := some .dropped }
  | dropped (hw : ∀ x, d.work ≠ .streamed x) (he : d.ended = none) :
      Change d now .abandon { d with ended := some .dropped }

theorem advance_change {dj : Dispatch × Journal} (ha : d.advance now = some dj) :
    d.Change now .advance dj.1 := by
  cases he : d.ended with
  | some e =>
    rw [advance_of_ended he] at ha
    cases ha
  | none =>
    simp only [advance, he, Option.isSome_none] at ha
    cases hw : d.work with
    | unbegun =>
      simp only [hw] at ha
      cases ha
      exact .begun hw he
    | inline q => simp [hw] at ha
    | streamed x =>
      cases hx : x.write with
      | none => simp [hw, hx] at ha
      | some x' =>
        simp only [hw, hx, Option.map_some] at ha
        cases ha
        unfold withExchange
        cases ho : x'.outcome? with
        | none => exact .wrote hw he hx ho
        | some o => exact .concluded hw he hx ho

theorem callStep_streamed (hw : d.work = .streamed x) (now : Nat) (c : CallEvent) :
    (d.callStep now c).1 = { d with work := .streamed (x.callStep c) } := by
  cases c <;> simp [callStep, finishCall, hw, Exchange.callStep]

theorem callStep_change (d : Dispatch) (now : Nat) (c : CallEvent) :
    (d.callStep now c).1 = d ∨ d.Change now (.call c) (d.callStep now c).1 := by
  cases hw : d.work with
  | unbegun => cases c <;> simp [callStep, finishCall, hw]
  | streamed x =>
    rw [callStep_streamed hw]
    rcases x.callStep_move c with hsame | hmove
    · left
      rw [hsame, ← hw]
    · exact .inr (.called hw hmove)
  | inline q =>
    cases c with
    | finish how =>
      cases he : d.ended with
      | some e => simp [callStep, finishCall, hw, he]
      | none =>
        cases how with
        | returned result =>
          right
          simpa [callStep, finishCall, hw, he, complete] using Change.returned result hw he
        | panicked text =>
          right
          simpa [callStep, finishCall, hw, he] using Change.brokeDown text hw he
    | _ => simp [callStep, hw]

theorem abandon_change (d : Dispatch) (now : Nat) :
    d.abandon = d ∨ d.Change now .abandon d.abandon := by
  cases he : d.ended with
  | some e => exact .inl (abandon_of_ended he)
  | none =>
    right
    cases hw : d.work with
    | unbegun => simpa [abandon, he, hw] using Change.dropped (by simp [hw]) he
    | inline q => simpa [abandon, he, hw] using Change.dropped (by simp [hw]) he
    | streamed x => simpa [abandon, he, hw] using Change.cutOff hw he

theorem step_change (d : Dispatch) (now : Nat) (ev : DispatchEvent) :
    (d.step now ev).1 = d ∨ d.Change now ev (d.step now ev).1 := by
  cases ev with
  | advance =>
    rw [step]
    cases ha : d.advance now with
    | none => exact .inl rfl
    | some dj => exact .inr (advance_change ha)
  | call c => exact d.callStep_change now c
  | abandon => exact d.abandon_change now

/-- What no change breaks, no run breaks. -/
theorem run_induction {P : Dispatch → Prop}
    (hchange : ∀ d d' now ev, P d → d.Change now ev d' → P d') (h : P d)
    (es : List (Nat × DispatchEvent)) : P (d.run es).1 := by
  induction es generalizing d with
  | nil => exact h
  | cons u es ih =>
    refine ih (d := (d.step u.1 u.2).1) ?_
    rcases d.step_change u.1 u.2 with hsame | hc
    · rwa [hsame]
    · exact hchange d _ u.1 u.2 h hc

/-- Nothing breaks a request down but the call of the engine. -/
theorem Change.panicked (hc : d.Change now ev d') {text : String}
    (h : d'.ended = some (.panicked text)) :
    d.ended = some (.panicked text) ∨ ev = .call (.finish (.panicked text)) := by
  cases hc with
  | begun hw he => exact .inl h
  | wrote hw he hx ho => exact .inl h
  | concluded hw he hx ho => cases h
  | called hw hx => exact .inl h
  | returned result hw he => cases h
  | brokeDown text' hw he =>
    cases h
    exact .inr rfl
  | cutOff hw he => cases h
  | dropped hw he => cases h

/-- Once a request has ended, nothing goes on but the call of its engine. -/
theorem Change.of_ended (hc : d.Change now ev d') {o : DispatchEnd} (ho : d.ended = some o) :
    ∃ x x' c, d.work = .streamed x ∧ x.CallMove c x' ∧ d' = { d with work := .streamed x' } := by
  cases hc with
  | called hw hx => exact ⟨_, _, _, hw, hx, rfl⟩
  | begun hw he | wrote hw he | concluded hw he | returned _ hw he | brokeDown _ hw he
  | cutOff hw he | dropped hw he => exact nomatch ho.symm.trans he

end Dispatch
end EndpointClient
