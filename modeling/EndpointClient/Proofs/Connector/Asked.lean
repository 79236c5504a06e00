import EndpointClient.Connector.Traffic
import EndpointClient.Proofs.Connector.Handle

/-!
# EndpointClient.Proofs.Connector.Asked

What an engine is asked for, whatever it does, with an entity or without one, in the foreground or
in the background.

* `Exchange.AsksFor q x`, `Dispatch.AsksFor r d`: nothing but the request that was sent, and that
  once at most. `Dispatch.AsksFor.step`: no step breaks it.
* `Sent.dispatch_step`: what happens to a request that was sent is something that happens to the
  request itself, or leaves that alone.
* `Sent.asked_run`: so it is in every run. `Sent.asked_begun`: and the engine is asked, once the
  request has begun and its call gets to run. `Connector.asksFor` has both.
-/

namespace EndpointClient

namespace Exchange

variable {q : EngineRequest} {x x' : Exchange} {c : CallEvent}

/-- The call is for one request, and it is made once at most. -/
structure AsksFor (q : EngineRequest) (x : Exchange) : Prop where
  request : x.request = q
  asked : x.asked = [] ∨ x.asked = [q]

theorem asksFor_start (capacity : Nat) (q : EngineRequest) (e : Entity) :
    (start capacity q e).AsksFor q :=
  ⟨rfl, .inl rfl⟩

/-- Writing is none of the business of the engine. -/
theorem write_keeps (h : x.write = some x') : x'.request = x.request ∧ x'.asked = x.asked := by
  unfold write at h
  split at h
  · split at h
    · rename_i r hr
      cases h
      cases r with
      | ok u => exact ⟨rfl, rfl⟩
      | error e =>
        simp only [settle]
        split <;> exact ⟨rfl, rfl⟩
    · split at h
      · cases h
      · obtain ⟨pr, -, rfl⟩ := Option.map_eq_some_iff.1 h
        exact ⟨rfl, rfl⟩
  · split at h
    · cases h
      exact ⟨rfl, rfl⟩
    · cases h
  · cases h

namespace AsksFor

theorem write (h : x.AsksFor q) (hw : x.write = some x') : x'.AsksFor q := by
  obtain ⟨hrequest, hasked⟩ := write_keeps hw
  refine ⟨hrequest.trans h.request, ?_⟩
  rw [hasked]
  exact h.asked

theorem callMove (h : x.AsksFor q) (hm : x.CallMove c x') : x'.AsksFor q := by
  cases hm with
  | asked ha =>
    -- a call that waits to be made has not been made
    have hnone : x.asked = [] := by
      simp only [awaitsAsk, Bool.and_eq_true, List.isEmpty_iff] at ha
      exact ha.1.2
    refine ⟨h.request, .inr ?_⟩
    show x.asked ++ [x.request] = [q]
    rw [hnone, h.request, List.nil_append]
  | chunk hb he hne => exact ⟨h.request, h.asked⟩
  | ended hb he hne hs => exact ⟨h.request, h.asked⟩
  | cut hb he hne hs hw => exact ⟨h.request, h.asked⟩
  | handedOn hr hb hh => exact ⟨h.request, h.asked⟩
  | dropped hb => exact ⟨h.request, h.asked⟩
  | finished hr ha => exact ⟨h.request, h.asked⟩
  | reaped hr hh => exact ⟨h.request, h.asked⟩

theorem abandon (h : x.AsksFor q) : x.abandon.AsksFor q := by
  unfold Exchange.abandon
  split
  · exact h
  · exact h
  · exact ⟨h.request, h.asked⟩

end AsksFor
end Exchange

namespace Dispatch

variable {r : ClientRequest} {d d' : Dispatch} {now : Nat} {ev : DispatchEvent}

/-- The engine is asked for the request, and that once at most. -/
structure AsksFor (r : ClientRequest) (d : Dispatch) : Prop where
  request : d.request = r
  inline : ∀ q, d.work = .inline q → q = r.engineRequest
  streamed : ∀ x, d.work = .streamed x → x.AsksFor r.engineRequest

theorem asksFor_start (mode : SendMode) (capacity : Nat) (r : ClientRequest) :
    (start mode capacity r).AsksFor r :=
  ⟨rfl, fun _ h => (nomatch h), fun _ h => (nomatch h)⟩

namespace AsksFor

/-- The work on a request goes on with an exchange. -/
theorem withStreamed {e : Option DispatchEnd} {x : Exchange} (h : d.AsksFor r)
    (hx : x.AsksFor r.engineRequest) :
    ({ d with work := .streamed x, ended := e } : Dispatch).AsksFor r := by
  refine ⟨h.request, fun _ hw => (nomatch hw), fun x' hw => ?_⟩
  cases hw
  exact hx

theorem change (h : d.AsksFor r) (hc : d.Change now ev d') : d'.AsksFor r := by
  cases hc with
  | begun hw he =>
    refine ⟨h.request, fun q hq => ?_, fun x hx => ?_⟩
    · simp only [begin, h.request] at hq
      split at hq
      · cases hq
        rfl
      · cases hq
    · simp only [begin, h.request] at hx
      split at hx
      · cases hx
      · cases hx
        exact Exchange.asksFor_start _ _ _
  | wrote hw he hx ho => exact h.withStreamed ((h.streamed _ hw).write hx)
  | concluded hw he hx ho => exact h.withStreamed ((h.streamed _ hw).write hx)
  | called hw hx => exact h.withStreamed ((h.streamed _ hw).callMove hx)
  | returned result hw he => exact ⟨h.request, h.inline, h.streamed⟩
  | brokeDown text hw he => exact ⟨h.request, h.inline, h.streamed⟩
  | cutOff hw he => exact h.withStreamed (h.streamed _ hw).abandon
  | dropped hw he => exact ⟨h.request, h.inline, h.streamed⟩

theorem step (h : d.AsksFor r) (now : Nat) (ev : DispatchEvent) : (d.step now ev).1.AsksFor r := by
  rcases d.step_change now ev with hsame | hc
  · rwa [hsame]
  · exact h.change hc

theorem asked (h : d.AsksFor r) : d.asked = [] ∨ d.asked = [r.engineRequest] := by
  cases hw : d.work with
  | unbegun => simp [Dispatch.asked, hw]
  | inline q =>
    have hq := h.inline q hw
    simp [Dispatch.asked, hw, hq]
  | streamed x => simpa [Dispatch.asked, hw] using (h.streamed x hw).asked

end AsksFor
end Dispatch

namespace Sent

variable {s : Sent}

/-- What happens is something that happens to the request, or leaves that alone. -/
theorem dispatch_step (s : Sent) (now : Nat) (ev : SentEvent) :
    (∃ ev', (s.step now ev).1.dispatch = (s.dispatch.step now ev').1) ∨
      (s.step now ev).1.dispatch = s.dispatch := by
  cases s with
  | awaited d =>
    simp only [step]
    cases ev.awaited? with
    | none => exact .inr rfl
    | some ev' => exact .inl ⟨ev', rfl⟩
  | background t =>
    simp only [step]
    cases ev.background? with
    | none => exact .inr rfl
    | some ev' =>
      rcases t.step_cases now ev' with ⟨dev, hstep, -⟩ | ⟨hsame, -⟩
      · refine .inl ⟨dev, ?_⟩
        show (t.step now ev').1.dispatch = _
        rw [hstep, Ticket.dispatch_withDispatch]
        rfl
      · exact .inr hsame

theorem asksFor_run {r : ClientRequest} (h : s.dispatch.AsksFor r) (es : List (Nat × SentEvent)) :
    (s.run es).dispatch.AsksFor r := by
  induction es generalizing s with
  | nil => exact h
  | cons u es ih =>
    refine ih (s := (s.step u.1 u.2).1) ?_
    rcases s.dispatch_step u.1 u.2 with ⟨ev, hstep⟩ | hsame
    · rw [hstep]
      exact h.step u.1 ev
    · rwa [hsame]

/-- Whatever happens to a request that was sent, the engine is asked for it once at most, and for
nothing else. -/
theorem asked_run (c : Connector) (s₀ : Sending) (es : List (Nat × SentEvent)) :
    ((c.send s₀).run es).dispatch.asked = [] ∨
      ((c.send s₀).run es).dispatch.asked = [s₀.request.engineRequest] := by
  have hstart : (c.send s₀).dispatch.AsksFor s₀.request := by
    cases s₀ with
    | awaited r => exact Dispatch.asksFor_start _ _ r
    | background r breaks => exact Dispatch.asksFor_start _ _ r
  exact (asksFor_run hstart es).asked

/-- A request that has begun asks the engine when its call gets to run. -/
theorem asked_begun (c : Connector) (s₀ : Sending) (t t' : Nat) :
    ((c.send s₀).run [(t, .advance), (t', .call .ask)]).dispatch.asked =
      [s₀.request.engineRequest] := by
  cases s₀ with
  | awaited r =>
    obtain ⟨method, uri, headers, properties, entity⟩ := r
    cases entity <;> rfl
  | background r breaks =>
    obtain ⟨method, uri, headers, properties, entity⟩ := r
    cases entity <;> rfl

end Sent

/-- The engine is asked for one request, whatever happens to what is sent. -/
structure Connector.AsksFor (c : Connector) (s₀ : Sending) (q : EngineRequest) : Prop where
  /-- It is asked for nothing else, and once at most. -/
  once (es : List (Nat × SentEvent)) :
    ((c.send s₀).run es).dispatch.asked = [] ∨ ((c.send s₀).run es).dispatch.asked = [q]
  /-- It is asked when the call gets to run. -/
  begun (t t' : Nat) :
    ((c.send s₀).run [(t, .advance), (t', .call .ask)]).dispatch.asked = [q]

theorem Connector.asksFor (c : Connector) (s₀ : Sending) :
    c.AsksFor s₀ s₀.request.engineRequest where
  once := Sent.asked_run c s₀
  begun := Sent.asked_begun c s₀

end EndpointClient
