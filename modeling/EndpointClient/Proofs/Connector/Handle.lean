import EndpointClient.Proofs.Connector.Change

/-!
# EndpointClient.Proofs.Connector.Handle

What the handle of a request in the background gives, next to what the callback has heard.

* `Dispatch.Serves r d`: a call in line, and so one that broke down, is that of a request without an
  entity. `Ticket.Handed r t`: with a callback that never breaks down, the end of the task is what
  `DispatchEnd.given` makes of the end of its request. `handed_run`: so it is in every run.
* `Ticket.step_cases`: what happens to a ticket is something that happens to its request, or leaves
  that alone. `panicked_run`: a request breaks down only with the call of the engine.
* `handle_agrees`: the handle gives what the callback has heard, unless the engine broke down in
  line. Then it gives the breakdown, and the callback has heard of an interruption
  (`handle_disagrees`).
-/

namespace EndpointClient

/-- The end of the task, where the callback does not break down over it. -/
def DispatchEnd.given : DispatchEnd → TicketEnd
  | .completed o => .completed (o.map (·.status))
  | .panicked text => .panicked text
  | .dropped => .cancelled

/-- A breakdown is all that handle and callback tell in different ways. -/
theorem DispatchEnd.status_given_iff (e : DispatchEnd) :
    e.given.status = e.told.map (·.status) ↔ ∀ text, e ≠ .panicked text := by
  cases e with
  | completed o => exact ⟨fun _ _ h => (nomatch h), fun _ => rfl⟩
  | panicked text => exact ⟨fun h => (nomatch h), fun h => absurd rfl (h text)⟩
  | dropped => exact ⟨fun _ _ h => (nomatch h), fun _ => rfl⟩

namespace Dispatch

variable {r : ClientRequest} {d d' : Dispatch} {now : Nat} {ev : DispatchEvent}

/-- A call in line is that of a request without an entity, and only such a call breaks down. -/
structure Serves (r : ClientRequest) (d : Dispatch) : Prop where
  request : d.request = r
  inline : ∀ q, d.work = .inline q → r.entity = none
  broken : ∀ text, d.ended = some (.panicked text) → r.entity = none

theorem serves_start (mode : SendMode) (capacity : Nat) (r : ClientRequest) :
    (start mode capacity r).Serves r :=
  ⟨rfl, fun _ h => (nomatch h), fun _ h => (nomatch h)⟩

theorem Serves.change (h : d.Serves r) (hc : d.Change now ev d') : d'.Serves r := by
  cases hc with
  | begun hw he =>
    refine ⟨h.request, fun q hw' => ?_, h.broken⟩
    cases hr : r.entity with
    | none => rfl
    | some e => simp [begin, h.request, hr] at hw'
  | wrote hw he hx ho => exact ⟨h.request, fun _ hw' => (nomatch hw'), h.broken⟩
  | concluded hw he hx ho =>
    exact ⟨h.request, fun _ hw' => (nomatch hw'), fun _ he' => (nomatch he')⟩
  | called hw hx => exact ⟨h.request, fun _ hw' => (nomatch hw'), h.broken⟩
  | returned result hw he => exact ⟨h.request, h.inline, fun _ he' => (nomatch he')⟩
  | brokeDown text hw he => exact ⟨h.request, h.inline, fun _ _ => h.inline _ hw⟩
  | cutOff hw he => exact ⟨h.request, fun _ hw' => (nomatch hw'), fun _ he' => (nomatch he')⟩
  | dropped hw he => exact ⟨h.request, h.inline, fun _ he' => (nomatch he')⟩

theorem Serves.step (h : d.Serves r) (now : Nat) (ev : DispatchEvent) :
    (d.step now ev).1.Serves r := by
  rcases d.step_change now ev with hsame | hc
  · rwa [hsame]
  · exact h.change hc

end Dispatch

/-! ## What happens to a ticket -/

namespace CallbackGuard

theorem breaks_tell (g : CallbackGuard) (o : SendOutcome) : (g.tell o).breaks = g.breaks := by
  unfold tell
  split <;> rfl

theorem breakdown?_of_neverBreaks {g : CallbackGuard} (h : g.breaks = neverBreaks)
    (o : SendOutcome) : g.breakdown? o = none := by
  simp [breakdown?, h, neverBreaks]

end CallbackGuard

namespace Ticket

variable {r : ClientRequest} {t : Ticket} {d : Dispatch}

/-- What happens to a ticket is something that happens to its request, or leaves that alone. It is
dropped only if it was cancelled. -/
theorem step_cases (t : Ticket) (now : Nat) (ev : TicketEvent) :
    (∃ ev', (t.step now ev).1 = t.withDispatch (t.dispatch.step now ev').1 ∧
      (∀ c, ev' = .call c → ev = .call c) ∧ (ev' = .abandon → t.cancelled = true)) ∨
    (t.step now ev).1.dispatch = t.dispatch ∧ (t.step now ev).1.guard = t.guard ∧
      (t.step now ev).1.ended = t.ended := by
  cases ev with
  | advance =>
    simp only [step, proceed]
    split
    · exact .inr ⟨rfl, rfl, rfl⟩
    · cases ha : t.dispatch.advance now with
      | none => exact .inr ⟨rfl, rfl, rfl⟩
      | some dj => exact .inl ⟨.advance, by simp [Dispatch.step, ha], by simp⟩
  | call c => exact .inl ⟨.call c, rfl, by simp⟩
  | cancel =>
    simp only [step, cancel]
    split <;> exact .inr ⟨rfl, rfl, rfl⟩
  | dropHandle => exact .inr ⟨rfl, rfl, rfl⟩
  | tearDown =>
    simp only [step, tearDown]
    split
    · rename_i h
      rw [Bool.and_eq_true] at h
      exact .inl ⟨.abandon, rfl, by simp, fun _ => h.1⟩
    · exact .inr ⟨rfl, rfl, rfl⟩

theorem breaks_settle (t : Ticket) (e : DispatchEnd) :
    (t.settle e).guard.breaks = t.guard.breaks := by
  cases e with
  | completed o => exact (CallbackGuard.breaks_tell _ _).trans (CallbackGuard.breaks_tell _ _)
  | panicked text => exact CallbackGuard.breaks_tell _ _
  | dropped => exact CallbackGuard.breaks_tell _ _

theorem settle_given (hb : t.guard.breaks = CallbackGuard.neverBreaks) (e : DispatchEnd) :
    (t.settle e).ended = some e.given := by
  cases e with
  | completed o =>
    rw [settle, CallbackGuard.breakdown?_of_neverBreaks hb]
    rfl
  | panicked text => rfl
  | dropped =>
    rw [settle, CallbackGuard.breakdown?_of_neverBreaks hb]
    rfl

/-- The end of the task is made of the end of its request, and of that alone. -/
structure Handed (r : ClientRequest) (t : Ticket) : Prop where
  serves : t.dispatch.Serves r
  breaks : t.guard.breaks = CallbackGuard.neverBreaks
  ended : t.ended = t.dispatch.ended.map DispatchEnd.given

theorem handed_start (mode : SendMode) (capacity : Nat) (r : ClientRequest) :
    (start mode capacity r CallbackGuard.neverBreaks).Handed r :=
  ⟨Dispatch.serves_start mode capacity r, rfl, rfl⟩

theorem Handed.withDispatch (h : t.Handed r) (hs : d.Serves r)
    (hd : ∀ e, t.dispatch.ended = some e → d.ended = some e) : (t.withDispatch d).Handed r := by
  have hsome : t.ended.isSome = t.dispatch.ended.isSome := by rw [h.ended, Option.isSome_map]
  rcases withDispatch_cases hsome hd with ⟨hwith, hsame⟩ | ⟨e, -, he, hwith⟩
  · rw [hwith]
    exact ⟨hs, h.breaks, h.ended.trans (by rw [hsame])⟩
  · rw [hwith]
    refine ⟨?_, (breaks_settle _ e).trans h.breaks, ?_⟩
    · rw [dispatch_settle]
      exact hs
    · rw [dispatch_settle, he]
      exact settle_given (t := { t with dispatch := d }) h.breaks e

theorem Handed.step (h : t.Handed r) (now : Nat) (ev : TicketEvent) :
    (t.step now ev).1.Handed r := by
  rcases t.step_cases now ev with ⟨ev', hstep, -⟩ | ⟨hd, hg, he⟩
  · rw [hstep]
    exact h.withDispatch (h.serves.step now ev') fun e he => Dispatch.ended_step he now ev'
  · exact ⟨hd ▸ h.serves, hg ▸ h.breaks, by rw [he, hd, h.ended]⟩

theorem handed_run (h : t.Handed r) (es : List (Nat × TicketEvent)) : (t.run es).1.Handed r := by
  induction es generalizing t with
  | nil => exact h
  | cons u es ih => exact ih (h.step u.1 u.2)

theorem panicked_run {text : String} (es : List (Nat × TicketEvent))
    (h : (t.run es).1.dispatch.ended = some (.panicked text)) :
    t.dispatch.ended = some (.panicked text) ∨
      ∃ now, (now, .call (.finish (.panicked text))) ∈ es := by
  induction es generalizing t with
  | nil => exact .inl h
  | cons u es ih =>
    rcases ih (t := (t.step u.1 u.2).1) h with hd | ⟨now, hmem⟩
    · rcases t.step_cases u.1 u.2 with ⟨ev', hstep, hev, -⟩ | ⟨hsame, -, -⟩
      · rw [hstep, dispatch_withDispatch] at hd
        rcases t.dispatch.step_change u.1 ev' with hkept | hchange
        · exact .inl (hkept ▸ hd)
        · rcases hchange.panicked hd with hd | hcall
          · exact .inl hd
          · refine .inr ⟨u.1, ?_⟩
            rw [← hev _ hcall]
            exact List.mem_cons_self
      · exact .inl (hsame ▸ hd)
    · exact .inr ⟨now, List.mem_cons_of_mem u hmem⟩

/-- **What the handle gives, and what the callback has heard.** Let the callback not break down.
Whatever the engine does, and whenever the request is cancelled, its task is torn down or the handle
is dropped: when the task has ended, the callback has heard of one outcome, and the handle gives the
status or the error of that outcome, unless the request broke down. That takes a request without an
entity whose engine broke down; the handle gives that breakdown then, where the callback has heard
of an interruption. -/
theorem handle_agrees (capacity : Nat) (r : ClientRequest) (es : List (Nat × TicketEvent))
    (end_ : TicketEnd)
    (hend : ((start .async capacity r CallbackGuard.neverBreaks).run es).1.ended = some end_) :
    let t := ((start .async capacity r CallbackGuard.neverBreaks).run es).1
    ∃ o, t.heard = [o] ∧
      (end_.status = o.map (·.status) ↔
        ∀ text, t.dispatch.ended ≠ some (.panicked text)) ∧
      ∀ text, t.dispatch.ended = some (.panicked text) →
        r.entity = none ∧ (∃ now, (now, .call (.finish (.panicked text))) ∈ es) ∧
          o = .error .interrupted ∧ end_.status = .error (.ofPanic text) := by
  intro t
  have htold : t.Told := told_run (told_start .async capacity r CallbackGuard.neverBreaks) es
  have h : t.Handed r := handed_run (handed_start .async capacity r) es
  have hgiven := h.ended.symm.trans hend
  rw [Option.map_eq_some_iff] at hgiven
  obtain ⟨e, he, rfl⟩ := hgiven
  refine ⟨e.told, by rw [htold.heard, he]; rfl, ?_, fun text hp => ?_⟩
  · rw [e.status_given_iff, he]
    simp
  · have hentity := h.serves.broken text hp
    have hcall : ∃ now, (now, .call (.finish (.panicked text))) ∈ es := by
      rcases panicked_run es hp with hstart | hcall
      · cases hstart
      · exact hcall
    rw [he] at hp
    cases hp
    exact ⟨hentity, hcall, rfl, rfl⟩

/-- The engine breaks down over a request with an entity. -/
theorem handle_agrees_streamed :
    let es : List (Nat × TicketEvent) := [(0, .advance), (1, .call .ask),
      (2, .call (.finish (.panicked "oops")))] ++ List.replicate 4 (3, .advance)
    let t := ((start .async 1 ⟨.get, ⟨none, [], ['/'], none⟩, .empty, {}, some (.whole [])⟩
      CallbackGuard.neverBreaks).run es).1
    t.ended = some (.completed (.error (.ofPanic "oops"))) ∧ ∃ o, t.heard = [o] ∧
      (TicketEnd.completed (.error (.ofPanic "oops"))).status = o.map (·.status) := by
  have h := handle_agrees 1 ⟨.get, ⟨none, [], ['/'], none⟩, .empty, {}, some (.whole [])⟩
    ([(0, .advance), (1, .call .ask), (2, .call (.finish (.panicked "oops")))] ++
      List.replicate 4 (3, .advance)) (.completed (.error (.ofPanic "oops"))) rfl
  obtain ⟨o, hheard, hagree, -⟩ := h
  exact ⟨rfl, o, hheard, hagree.2 fun _ hp => nomatch hp⟩

/-- The engine breaks down over a request without an entity. -/
theorem handle_disagrees :
    let t := ((start .async 1 (.new .get ⟨none, [], ['/'], none⟩) CallbackGuard.neverBreaks).run
      [(0, .advance), (1, .call (.finish (.panicked "oops")))]).1
    t.heard = [.error .interrupted] ∧
      t.ended.map TicketEnd.status = some (.error (.ofPanic "oops")) ∧
      ConnectorError.ofPanic "oops" ≠ .interrupted :=
  ⟨rfl, rfl, fun h => nomatch h⟩

end Ticket
end EndpointClient
