import EndpointClient.Proofs.Connector.Sent

/-!
# EndpointClient.Proofs.Connector.Isolation

Requests that go through one connector at the same time do not disturb one another.

* `Traffic.Obeys reply w es`: in the run `es` the engine keeps to its reply, whatever request it is
  asked for.
* `Traffic.own i es` is what happens in a run to the request with the index `i`. `sent_run`: nothing
  else touches that request. `sent_of_sending`: so it stands where a run of its own leads to.
* `requests_undisturbed`: what comes of a request in company is what comes of it alone.
-/

namespace EndpointClient

def TrafficEvent.sending? : TrafficEvent → Option Sending
  | .send s => some s
  | .happens _ _ => none

/-- What happens in an event to the request with an index. -/
def TrafficEvent.own? (i : Nat) : TrafficEvent → Option SentEvent
  | .send _ => none
  | .happens j ev => if j = i then some ev else none

namespace Traffic

variable {reply : EngineReply} {w : Traffic} {s₀ : Sending} {s : Sent} {i : Nat}

def sendings (es : List (Nat × TrafficEvent)) : List Sending := es.filterMap (·.2.sending?)

/-- What happens in a run to the request with an index. -/
def own (i : Nat) (es : List (Nat × TrafficEvent)) : List (Nat × SentEvent) :=
  es.filterMap fun u => (u.2.own? i).map (u.1, ·)

def Admits (reply : EngineReply) (w : Traffic) : TrafficEvent → Prop
  | .send _ => True
  | .happens i ev => ∀ s, w.sent[i]? = some s → s.Admits reply ev

/-- A run in which the engine keeps to its reply, for every request. -/
def Obeys (reply : EngineReply) (w : Traffic) : List (Nat × TrafficEvent) → Prop
  | [] => True
  | (now, e) :: es => w.Admits reply e ∧ (w.step now e).Obeys reply es

theorem run_cons (w : Traffic) (u : Nat × TrafficEvent) (es : List (Nat × TrafficEvent)) :
    w.run (u :: es) = (w.step u.1 u.2).run es := rfl

theorem obeys_append (es es' : List (Nat × TrafficEvent)) :
    w.Obeys reply (es ++ es') ↔ w.Obeys reply es ∧ (w.run es).Obeys reply es' := by
  induction es generalizing w with
  | nil => exact ⟨fun h => ⟨trivial, h⟩, fun h => h.2⟩
  | cons u es ih => exact (and_congr_right fun _ => ih).trans and_assoc.symm

theorem connector_step (w : Traffic) (now : Nat) (e : TrafficEvent) :
    (w.step now e).connector = w.connector := by
  cases e with
  | send s => rfl
  | happens j ev =>
    simp only [step]
    split <;> rfl

theorem length_happens (w : Traffic) (now j : Nat) (ev : SentEvent) :
    (w.step now (.happens j ev)).sent.length = w.sent.length := by
  simp only [step]
  split
  · rfl
  · exact List.length_set

/-- What happens to the other requests leaves a request alone. -/
theorem sent_step (h : w.sent[i]? = some s) (now : Nat) (e : TrafficEvent) :
    (w.step now e).sent[i]? = some ((e.own? i).elim s fun ev => (s.step now ev).1) := by
  obtain ⟨hi, hs⟩ := List.getElem?_eq_some_iff.1 h
  cases e with
  | send s' =>
    rw [step, List.getElem?_append_left hi, h]
    rfl
  | happens j ev =>
    by_cases hj : j = i
    · subst hj
      simp [step, TrafficEvent.own?, hi, hs]
    · simp only [step, TrafficEvent.own?, if_neg hj, Option.elim_none]
      split
      · exact h
      · rw [List.getElem?_set_ne hj, h]

theorem sent_run (h : w.sent[i]? = some s) (es : List (Nat × TrafficEvent)) :
    (w.run es).sent[i]? = some (s.run (own i es)) := by
  induction es generalizing w s with
  | nil => exact h
  | cons u es ih =>
    refine (ih (sent_step h u.1 u.2)).trans ?_
    cases hown : u.2.own? i with
    | none => simp [own, hown]
    | some ev => simp [own, hown, Sent.run]

theorem obeys_own (h : w.sent[i]? = some s) {es : List (Nat × TrafficEvent)}
    (hes : w.Obeys reply es) : s.Obeys reply (own i es) := by
  induction es generalizing w s with
  | nil => trivial
  | cons u es ih =>
    have hrest := ih (sent_step h u.1 u.2) hes.2
    cases hown : u.2.own? i with
    | none => simpa [own, hown] using hrest
    | some ev =>
      have hadmits : s.Admits reply ev := by
        obtain ⟨now, e⟩ := u
        cases e with
        | send s' => cases hown
        | happens j ev' =>
          simp only [TrafficEvent.own?] at hown
          split at hown
          · cases hown
            subst j
            exact hes.1 s h
          · cases hown
      have hcons : own i (u :: es) = (u.1, ev) :: own i es := by simp [own, hown]
      rw [hown] at hrest
      rw [hcons]
      exact ⟨hadmits, hrest⟩

/-- In company each request stands where a run of its own leads to. -/
theorem sent_of_sending {es : List (Nat × TrafficEvent)} (hes : w.Obeys reply es) {k : Nat}
    (hk : (sendings es)[k]? = some s₀) : ∃ own, (w.connector.send s₀).Obeys reply own ∧
      (w.run es).sent[w.sent.length + k]? = some ((w.connector.send s₀).run own) := by
  induction es generalizing w k with
  | nil => cases hk
  | cons u es ih =>
    obtain ⟨now, e⟩ := u
    have hrest := fun {k} hk => ih (w := w.step now e) (k := k) hes.2 hk
    rw [connector_step] at hrest
    cases e with
    | happens j ev =>
      rw [length_happens] at hrest
      exact hrest hk
    | send s' =>
      have hlength : (w.step now (.send s')).sent.length = w.sent.length + 1 :=
        List.length_append
      cases k with
      | zero =>
        cases hk
        have hs : (w.step now (.send s₀)).sent[w.sent.length]? = some (w.connector.send s₀) := by
          simp [step]
        exact ⟨own w.sent.length es, obeys_own hs hes.2, sent_run hs es⟩
      | succ k =>
        have h := hrest (k := k) hk
        rwa [hlength, Nat.add_assoc, Nat.add_comm 1] at h

end Traffic

/-- **Requests do not disturb one another.** Let the engine read each request body to its end, and
answer a call by nothing but the request of that call and its body. Let any number of requests go
through one connector, with their tasks taking turns in any order, and any of them cancelled or
dropped at any moment. Nothing that happens to the others touches a request. One that is not
cancelled goes on until it is over, and whoever sent it gets what he gets of it alone, on whatever
connector, where it comes to its end as well; and the engine is asked the same, with the same
bytes. -/
theorem requests_undisturbed (reply : EngineReply) (c : Connector)
    (es : List (Nat × TrafficEvent)) (hes : (Traffic.start c).Obeys reply es) (i : Nat)
    (s₀ : Sending) (hi : (Traffic.sendings es)[i]? = some s₀) :
    let w := (Traffic.start c).run es
    ∃ s, w.sent[i]? = some s ∧
      (∀ es', (w.run es').sent[i]? = some (s.run (Traffic.own i es'))) ∧
      (s.isCancelled = false →
        (s.isOver = false → s.Proceeds reply) ∧
        (∀ es', w.Obeys reply es' → (s.run (Traffic.own i es')).isCancelled = false →
          (s.run (Traffic.own i es')).due ≤ s.due) ∧
        ∀ alone : Connector,
          (∃ es₁, (alone.send s₀).Obeys reply es₁ ∧
            ((alone.send s₀).run es₁).isCancelled = false ∧
            ((alone.send s₀).run es₁).isOver = true) ∧
          ∀ es₁, (alone.send s₀).Obeys reply es₁ →
            let s₁ := (alone.send s₀).run es₁
            s₁.isCancelled = false →
              (∀ ρ ρ₁, s.receipt? = some ρ → s₁.receipt? = some ρ₁ → ρ = ρ₁) ∧
              (s.isOver = true → s₁.isOver = true →
                s.receipt?.isSome = true ∧ s.receipt? = s₁.receipt? ∧
                s.dispatch.asked = s₁.dispatch.asked ∧
                s.dispatch.received = s₁.dispatch.received)) := by
  intro w
  obtain ⟨es₀, hes₀, hs⟩ := Traffic.sent_of_sending hes hi
  rw [show (Traffic.start c).sent.length + i = i from Nat.zero_add i] at hs
  generalize hsame : ((Traffic.start c).connector.send s₀).run es₀ = s at hs
  have h : s.Serving reply s₀ := hsame ▸ ((Sent.serving_send c s₀).run hes₀).1
  refine ⟨_, hs, Traffic.sent_run hs, fun hn => ⟨h.proceeds hn, fun es' hes' hn' => ?_,
    fun alone => ⟨?_, fun es₁ hes₁ => ?_⟩⟩⟩
  · exact ((h.run (Traffic.obeys_own hs hes')).2 hn').2
  · exact (Sent.serving_send alone s₀).exists_over (Sent.isCancelled_send alone s₀)
  · intro s₁ hn₁
    have h₁ : s₁.Serving reply s₀ := ((Sent.serving_send alone s₀).run hes₁).1
    refine ⟨fun ρ ρ₁ hρ hρ₁ => ?_, fun ho ho₁ => ?_⟩
    · rw [h.receipt?_eq hn hρ, h₁.receipt?_eq hn₁ hρ₁]
    · have hρ := h.receipt?_of_over hn ho
      obtain ⟨hasked, hreceived⟩ := (h.served hn).of_over ho
      obtain ⟨hasked₁, hreceived₁⟩ := (h₁.served hn₁).of_over ho₁
      rw [hasked, hasked₁, hreceived, hreceived₁, h₁.receipt?_of_over hn₁ ho₁]
      exact ⟨by rw [hρ]; rfl, hρ, rfl, rfl⟩

namespace Traffic

/-- An engine that answers with what it got. -/
def echo : EngineReply := fun q bs _ => .returned (.ok ⟨.ok, q.headers, [.ok bs]⟩)

def oneByte : ClientRequest := ⟨.get, ⟨none, [], ['/'], none⟩, .empty, {}, some (.whole [1])⟩

/-- A request goes to its end while another one is cancelled. -/
def cancelledNextToIt : List (Nat × TrafficEvent) :=
  [(1, .happens 1 .advance), (1, .happens 0 .advance), (2, .happens 0 (.call .ask)),
    (2, .happens 1 (.call .ask)), (3, .happens 0 .advance), (3, .happens 1 .cancel),
    (4, .happens 1 .tearDown), (5, .happens 0 (.call .pull)), (6, .happens 0 .advance),
    (6, .happens 0 .advance), (7, .happens 0 (.call .pull)), (8, .happens 0 .advance)]

def answered : List (Nat × TrafficEvent) :=
  [(9, .happens 0 (.call (.finish (echo oneByte.engineRequest [1] .clean)))),
    (9, .happens 0 .advance)]

/-- A request that goes to its end alone, and writes all its body before the engine is asked. -/
def writtenFirst : List (Nat × SentEvent) :=
  [(0, .advance), (1, .advance), (1, .advance), (1, .advance), (1, .advance), (2, .call .ask),
    (3, .call .pull), (3, .call .pull),
    (4, .call (.finish (echo oneByte.engineRequest [1] .clean))), (4, .advance)]

end Traffic

/-- A byte goes to an engine that answers with what it got, while the same request is cancelled in
the background; and it goes there alone. -/
theorem requests_undisturbed_echo :
    let es : List (Nat × TrafficEvent) := (0, .send (.awaited Traffic.oneByte)) ::
      (0, .send (.background Traffic.oneByte CallbackGuard.neverBreaks)) ::
        (Traffic.cancelledNextToIt ++ Traffic.answered)
    ∃ s, ((Traffic.start ⟨1⟩).run es).sent[0]? = some s ∧ s.isOver = true ∧
      s.receipt? = ((Connector.send ⟨8⟩ (.awaited Traffic.oneByte)).run
        Traffic.writtenFirst).receipt? ∧ s.dispatch.received = [1] := by
  intro es
  have hask (s : Sent) : s.Admits Traffic.echo (.call .ask) :=
    s.dispatch.replies_of_ne (fun _ h => nomatch h) fun h => nomatch h
  have hpull (s : Sent) : s.Admits Traffic.echo (.call .pull) :=
    s.dispatch.replies_of_ne (fun _ h => nomatch h) fun h => nomatch h
  -- the request that is not cancelled is followed by itself
  have hsent : (((Traffic.start ⟨1⟩).step 0 (.send (.awaited Traffic.oneByte))).step 0
      (.send (.background Traffic.oneByte CallbackGuard.neverBreaks))).sent[0]? =
        some (Connector.send ⟨1⟩ (.awaited Traffic.oneByte)) := rfl
  have hes : (Traffic.start ⟨1⟩).Obeys Traffic.echo es := by
    refine ⟨trivial, trivial, (Traffic.obeys_append _ _).2 ⟨⟨fun _ _ => trivial, fun _ _ => trivial,
      fun s _ => hask s, fun s _ => hask s, fun _ _ => trivial, fun _ _ => trivial,
      fun _ _ => trivial, fun s _ => hpull s, fun _ _ => trivial, fun _ _ => trivial,
      fun s _ => hpull s, fun _ _ => trivial, trivial⟩, fun s hs => ?_, fun _ _ => trivial,
      trivial⟩⟩
    rw [← Option.some.inj ((Traffic.sent_run hsent Traffic.cancelledNextToIt).symm.trans hs)]
    exact ⟨_, [], .clean, rfl, rfl, rfl⟩
  have hes₁ : (Connector.send ⟨8⟩ (.awaited Traffic.oneByte)).Obeys Traffic.echo
      Traffic.writtenFirst :=
    ⟨trivial, trivial, trivial, trivial, trivial, hask _, hpull _, hpull _,
      ⟨_, [], .clean, rfl, rfl, rfl⟩, trivial, trivial⟩
  obtain ⟨s, hs, -, hundisturbed⟩ :=
    requests_undisturbed Traffic.echo ⟨1⟩ es hes 0 (.awaited Traffic.oneByte) rfl
  rw [Traffic.run_cons, Traffic.run_cons] at hs ⊢
  have hsame := Option.some.inj
    ((Traffic.sent_run hsent (Traffic.cancelledNextToIt ++ Traffic.answered)).symm.trans hs)
  subst hsame
  obtain ⟨-, -, halone⟩ := hundisturbed (by decide +kernel)
  obtain ⟨-, hreceipt, -, hreceived⟩ := ((halone ⟨8⟩).2 Traffic.writtenFirst hes₁
    (by decide +kernel)).2 (by decide +kernel) (by decide +kernel)
  refine ⟨_, hs, by decide +kernel, hreceipt, hreceived.trans (by decide +kernel)⟩

end EndpointClient
