import EndpointClient.Connector.Traffic
import EndpointClient.Proofs.Connector.Handle
import EndpointClient.Proofs.Connector.Reply

/-!
# EndpointClient.Proofs.Connector.Sent

One request on its way, in the foreground or in the background, with an engine that keeps to its
reply.

* `Ticket.Settled breaks t`: callback and handle tell nothing but the end of the request. In general,
  `Sent.Fits s₀ s` says that what whoever sent `s₀` gets is made of that end alone
  (`Fits.receipt?_eq`).
* `Sent.Serving reply s₀ s` is how the request that was sent as `s₀` stands, until it is cancelled.
  `Serving.run`: so it stands after every run in which the engine keeps to its reply (`Obeys`).
* `Serving.proceeds`: as long as the request is not over, somebody makes progress.
  `Serving.exists_over`: it can always be brought to its end.
* `Serving.receipt?_eq`: what comes of the request depends on nothing but what was sent.
-/

namespace EndpointClient

/-! ## In the background -/

/-- The end of the task, for a callback that may break down over what it is told. -/
def DispatchEnd.settledBy (breaks : SendOutcome → Option String) : DispatchEnd → TicketEnd
  | .completed o => (TicketEnd.completed (o.map (·.status))).orBreakdown (breaks o)
  | .panicked text => .panicked text
  | .dropped => TicketEnd.cancelled.orBreakdown (breaks CallbackGuard.interruption)

namespace Ticket

variable {t : Ticket} {breaks : SendOutcome → Option String}

/-- What callback and handle tell is made of the end of the request, and of that alone. -/
structure Settled (breaks : SendOutcome → Option String) (t : Ticket) : Prop where
  told : t.Told
  callback : t.guard.breaks = breaks
  ended : t.ended = t.dispatch.ended.map (DispatchEnd.settledBy breaks)

theorem settle_settledBy (ha : t.guard.armed = true) (e : DispatchEnd) :
    (t.settle e).ended = some (e.settledBy t.guard.breaks) := by
  cases e <;> simp [settle, CallbackGuard.breakdown?, ha, DispatchEnd.settledBy]

theorem Settled.withDispatch (h : t.Settled breaks) {d : Dispatch}
    (hd : ∀ e, t.dispatch.ended = some e → d.ended = some e) :
    (t.withDispatch d).Settled breaks := by
  have htold := h.told.withDispatch hd
  rcases withDispatch_cases h.told.ended hd with ⟨hwith, hsame⟩ | ⟨e, ht, he, hwith⟩
  · rw [hwith] at htold ⊢
    exact ⟨htold, h.callback, h.ended.trans (by rw [hsame])⟩
  · rw [hwith] at htold ⊢
    refine ⟨htold, (breaks_settle _ e).trans h.callback, ?_⟩
    rw [dispatch_settle, he, settle_settledBy (t := { t with dispatch := d }) (h.told.waiting ht).1]
    exact congrArg (fun b => some (e.settledBy b)) h.callback

theorem Settled.step (h : t.Settled breaks) (now : Nat) (ev : TicketEvent) :
    (t.step now ev).1.Settled breaks := by
  rcases t.step_cases now ev with ⟨ev', hstep, -⟩ | ⟨hd, hg, he⟩
  · rw [hstep]
    exact h.withDispatch fun e he => Dispatch.ended_step he now ev'
  · exact ⟨h.told.step now ev, hg ▸ h.callback, by rw [he, hd, h.ended]⟩

theorem cancelled_withDispatch (t : Ticket) (d : Dispatch) :
    (t.withDispatch d).cancelled = t.cancelled := by
  unfold withDispatch
  cases t.ended with
  | some _ => rfl
  | none =>
    cases d.ended with
    | none => rfl
    | some e => cases e <;> rfl

theorem cancelled_step (h : t.cancelled = true) (now : Nat) (ev : TicketEvent) :
    (t.step now ev).1.cancelled = true := by
  cases ev with
  | advance =>
    simp only [step, proceed]
    split
    · exact h
    · cases t.dispatch.advance now with
      | none => exact h
      | some dj => exact (cancelled_withDispatch t dj.1).trans h
  | call c => exact (cancelled_withDispatch t _).trans h
  | cancel =>
    simp only [step, cancel]
    split
    · rfl
    · exact h
  | dropHandle => exact h
  | tearDown =>
    simp only [step, tearDown]
    split
    · exact (cancelled_withDispatch t _).trans h
    · exact h

end Ticket

/-! ## In the foreground or in the background -/

/-- What whoever sent a request gets of its end. -/
def Sending.receiptOf : Sending → DispatchEnd → Receipt
  | .awaited _, e => .awaited e
  | .background _ breaks, e => .background [e.told] (e.settledBy breaks)

namespace Sent

variable {reply : EngineReply} {s₀ : Sending} {s : Sent} {now : Nat} {ev : SentEvent}

/-- A request on its way is of the kind that was sent. -/
inductive Fits : Sending → Sent → Prop where
  | awaited {r : ClientRequest} {d : Dispatch} : Fits (.awaited r) (.awaited d)
  | background {r : ClientRequest} {breaks : SendOutcome → Option String} {t : Ticket}
      (h : t.Settled breaks) : Fits (.background r breaks) (.background t)

theorem Fits.receipt?_eq (h : Fits s₀ s) : s.receipt? = s.dispatch.ended.map s₀.receiptOf := by
  cases h with
  | awaited => rfl
  | @background r breaks t h =>
    simp only [receipt?, dispatch, h.ended, h.told.heard]
    cases t.dispatch.ended <;> rfl

theorem Fits.step (h : Fits s₀ s) (now : Nat) (ev : SentEvent) : Fits s₀ (s.step now ev).1 := by
  cases h with
  | @awaited r d =>
    simp only [Sent.step]
    cases ev.awaited? with
    | none => exact .awaited
    | some ev => exact .awaited
  | @background r breaks t h =>
    simp only [Sent.step]
    cases ev.background? with
    | none => exact .background h
    | some ev => exact .background (h.step now ev)

theorem isCancelled_step (h : s.isCancelled = true) (now : Nat) (ev : SentEvent) :
    (s.step now ev).1.isCancelled = true := by
  cases s with
  | awaited d =>
    obtain ⟨e, he, hdrop⟩ : ∃ e, d.ended = some e ∧ e.isDropped = true := by
      simpa [isCancelled, Option.any_eq_true] using h
    simp only [step]
    cases ev.awaited? with
    | none => exact h
    | some ev => simpa [isCancelled, Dispatch.ended_step he now ev] using hdrop
  | background t =>
    simp only [step]
    cases ev.background? with
    | none => exact h
    | some ev => exact Ticket.cancelled_step h now ev

/-- What happens is something that happens to the request, leaves that alone, or cancels it. -/
theorem step_cases (s : Sent) (now : Nat) (ev : SentEvent) :
    (∃ ev', (s.step now ev).1.dispatch = (s.dispatch.step now ev').1 ∧ ev' ≠ .abandon ∧
      ∀ c, ev' = .call c → ev = .call c) ∨
    (s.step now ev).1.dispatch = s.dispatch ∨ (s.step now ev).1.isCancelled = true := by
  cases s with
  | awaited d =>
    cases ev with
    | advance => exact .inl ⟨.advance, rfl, by simp, by simp⟩
    | call c => exact .inl ⟨.call c, rfl, by simp, by simp⟩
    | giveUp =>
      cases he : d.ended with
      | none =>
        have hended : d.abandon.ended = some .dropped := Dispatch.ended_abandon he
        exact .inr (.inr (by simp [step, SentEvent.awaited?, Dispatch.step, isCancelled, hended,
          DispatchEnd.isDropped]))
      | some e => exact .inr (.inl (Dispatch.abandon_of_ended he))
    | cancel => exact .inr (.inl rfl)
    | dropHandle => exact .inr (.inl rfl)
    | tearDown => exact .inr (.inl rfl)
  | background t =>
    have hcall (c : CallEvent) : ev.background? = some (.call c) → ev = .call c := by
      cases ev <;> simp [SentEvent.background?]
    simp only [step]
    cases hev : ev.background? with
    | none => exact .inr (.inl rfl)
    | some tev =>
      rcases t.step_cases now tev with ⟨ev', hstep, hcalls, hdrops⟩ | ⟨hsame, -, -⟩
      · by_cases hdrop : ev' = .abandon
        · exact .inr (.inr (Ticket.cancelled_step (hdrops hdrop) now tev))
        · refine .inl ⟨ev', ?_, hdrop, fun c hc => hcall c (hev.trans (by rw [hcalls c hc]))⟩
          show (t.step now tev).1.dispatch = _
          rw [hstep, Ticket.dispatch_withDispatch]
          rfl
      · exact .inr (.inl hsame)

def Admits (reply : EngineReply) (s : Sent) : SentEvent → Prop
  | .call c => s.dispatch.Replies reply c
  | _ => True

def Obeys (reply : EngineReply) (s : Sent) : List (Nat × SentEvent) → Prop
  | [] => True
  | (now, ev) :: es => s.Admits reply ev ∧ (s.step now ev).1.Obeys reply es

def isOver (s : Sent) : Bool := s.dispatch.isOver

def due (s : Sent) : Nat := s.dispatch.due

/-- The side of the caller makes progress, or the engine does with whatever it sets out to do. -/
def Proceeds (reply : EngineReply) (s : Sent) : Prop :=
  (∀ now, (s.step now .advance).1.due < s.due) ∨
    (∃ c, s.dispatch.SetsOut reply c) ∧
      ∀ c, s.dispatch.SetsOut reply c → ∀ now, (s.step now (.call c)).1.due < s.due

structure Serving (reply : EngineReply) (s₀ : Sending) (s : Sent) : Prop where
  fits : Fits s₀ s
  served : s.isCancelled = false → s.dispatch.Served reply s₀.request

theorem serving_send (c : Connector) (s₀ : Sending) : (c.send s₀).Serving reply s₀ := by
  cases s₀ with
  | awaited r => exact ⟨.awaited, fun _ => Dispatch.served_start _ _ _⟩
  | background r breaks =>
    exact ⟨.background ⟨Ticket.told_start _ _ _ _, rfl, rfl⟩, fun _ => Dispatch.served_start _ _ _⟩

theorem isCancelled_send (c : Connector) (s₀ : Sending) : (c.send s₀).isCancelled = false := by
  cases s₀ <;> rfl

namespace Serving

theorem step (h : s.Serving reply s₀) (hev : s.Admits reply ev) (now : Nat) :
    (s.step now ev).1.Serving reply s₀ ∧ ((s.step now ev).1.isCancelled = false →
      s.isCancelled = false ∧ (s.step now ev).1.due ≤ s.due) := by
  have hbefore (hn : (s.step now ev).1.isCancelled = false) : s.isCancelled = false := by
    cases hc : s.isCancelled with
    | false => rfl
    | true => rw [isCancelled_step hc] at hn; cases hn
  have hboth (hn : (s.step now ev).1.isCancelled = false) :
      (s.step now ev).1.dispatch.Served reply s₀.request ∧ (s.step now ev).1.due ≤ s.due := by
    have hserved := h.served (hbefore hn)
    rcases s.step_cases now ev with ⟨ev', hstep, hne, hcall⟩ | hsame | hc
    · rw [due, hstep]
      refine hserved.step ?_ now
      cases ev' with
      | advance => trivial
      | call c =>
        rw [hcall c rfl] at hev
        exact hev
      | abandon => exact absurd rfl hne
    · rw [due, hsame]
      exact ⟨hserved, Nat.le_refl _⟩
    · cases hn.symm.trans hc
  exact ⟨⟨h.fits.step now ev, fun hn => (hboth hn).1⟩, fun hn => ⟨hbefore hn, (hboth hn).2⟩⟩

theorem run (h : s.Serving reply s₀) {es : List (Nat × SentEvent)} (hes : s.Obeys reply es) :
    (s.run es).Serving reply s₀ ∧ ((s.run es).isCancelled = false →
      s.isCancelled = false ∧ (s.run es).due ≤ s.due) := by
  induction es generalizing s with
  | nil => exact ⟨h, fun hn => ⟨hn, Nat.le_refl _⟩⟩
  | cons u es ih =>
    obtain ⟨hstep, hdue⟩ := h.step hes.1 u.1
    obtain ⟨hrun, hless⟩ := ih hstep hes.2
    refine ⟨hrun, fun hn => ?_⟩
    obtain ⟨hn', hle⟩ := hless hn
    exact ⟨(hdue hn').1, Nat.le_trans hle (hdue hn').2⟩

theorem dispatch_advance (h : s.Serving reply s₀) (now : Nat) :
    (s.step now .advance).1.dispatch = (s.dispatch.step now .advance).1 := by
  obtain ⟨hfits, -⟩ := h
  cases hfits with
  | awaited => rfl
  | background h => exact h.told.dispatch_advance now

theorem dispatch_call (s : Sent) (now : Nat) (c : CallEvent) :
    (s.step now (.call c)).1.dispatch = (s.dispatch.step now (.call c)).1 := by
  cases s with
  | awaited d => rfl
  | background t => exact Ticket.dispatch_withDispatch _ _

theorem proceeds (h : s.Serving reply s₀) (hn : s.isCancelled = false) (ho : s.isOver = false) :
    s.Proceeds reply := by
  refine ((h.served hn).proceeds ho).imp (fun hcaller now => ?_) fun ⟨hsome, hengine⟩ =>
    ⟨hsome, fun c hc now => ?_⟩
  · rw [due, h.dispatch_advance]
    exact hcaller now
  · rw [due, dispatch_call]
    exact hengine c hc now

/-- Nothing that the two sides do cancels a request. -/
theorem kept (h : s.Serving reply s₀) (hn : s.isCancelled = false) (hev : s.Admits reply ev)
    (hown : ev = .advance ∨ ∃ c, ev = .call c) (now : Nat) :
    (s.step now ev).1.isCancelled = false := by
  have hserved := h.served hn
  cases s with
  | awaited d =>
    rcases hown with rfl | ⟨c, rfl⟩
    · have hadmits : d.Admits reply .advance := trivial
      exact (hserved.step hadmits now).1.not_dropped
    · have hadmits : d.Admits reply (.call c) := hev
      exact (hserved.step hadmits now).1.not_dropped
  | background t =>
    rcases hown with rfl | ⟨c, rfl⟩
    · simp only [Sent.step, SentEvent.background?, Ticket.step, Ticket.proceed]
      split
      · exact hn
      · cases t.dispatch.advance now with
        | none => exact hn
        | some dj => exact (Ticket.cancelled_withDispatch t dj.1).trans hn
    · exact (Ticket.cancelled_withDispatch t _).trans hn

/-- A request can always be brought to its end. -/
theorem exists_over (h : s.Serving reply s₀) (hn : s.isCancelled = false) :
    ∃ es, s.Obeys reply es ∧ (s.run es).isCancelled = false ∧ (s.run es).isOver = true := by
  induction hk : s.due using Nat.strongRecOn generalizing s with
  | ind k ih =>
    cases ho : s.isOver with
    | true => exact ⟨[], trivial, hn, ho⟩
    | false =>
      obtain ⟨ev, hown, hev, hlt⟩ : ∃ ev, (ev = .advance ∨ ∃ c, ev = .call c) ∧
          s.Admits reply ev ∧ (s.step 0 ev).1.due < s.due := by
        rcases h.proceeds hn ho with hcaller | ⟨⟨c, hc⟩, hengine⟩
        · exact ⟨.advance, .inl rfl, trivial, hcaller 0⟩
        · exact ⟨.call c, .inr ⟨c, rfl⟩, hc.replies, hengine c hc 0⟩
      obtain ⟨es, hes, hn', ho'⟩ := ih _ (hk ▸ hlt) (h.step hev 0).1 (h.kept hn hev hown 0) rfl
      exact ⟨(0, ev) :: es, ⟨hev, hes⟩, hn', ho'⟩

theorem receipt?_eq (h : s.Serving reply s₀) (hn : s.isCancelled = false) {ρ : Receipt}
    (hρ : s.receipt? = some ρ) : ρ = s₀.receiptOf (s₀.request.endBy reply) := by
  rw [h.fits.receipt?_eq, Option.map_eq_some_iff] at hρ
  obtain ⟨e, he, rfl⟩ := hρ
  rw [(h.served hn).ended_eq he]

theorem receipt?_of_over (h : s.Serving reply s₀) (hn : s.isCancelled = false)
    (ho : s.isOver = true) : s.receipt? = some (s₀.receiptOf (s₀.request.endBy reply)) := by
  have hsome : s.receipt?.isSome = true := by
    rw [h.fits.receipt?_eq, Option.isSome_map]
    exact (Bool.and_eq_true _ _ ▸ ho).1
  obtain ⟨ρ, hρ⟩ := Option.isSome_iff_exists.1 hsome
  rw [hρ, h.receipt?_eq hn hρ]

end Serving
end Sent

end EndpointClient
