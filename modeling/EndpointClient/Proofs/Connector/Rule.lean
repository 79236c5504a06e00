import EndpointClient.Proofs.Connector.Ongoing
import EndpointClient.Proofs.Connector.Transparency

/-!
# EndpointClient.Proofs.Connector.Rule

Requests with an entity whose engine keeps to a rule, in runs in which the caller does not give up.
A rule leaves an engine its choices: how far it reads, when it lets go of its body, how it ends.

* `Dispatch.Obeys rule d es`: in the run `es` the engine keeps to the rule.
* `Exchange.Stable rule q e Q`: no move breaks `Q`, as long as the engine keeps to the rule.
  `Dispatch.Upholds Q r e d` is a request that is still to begin, or whose exchange has `Q`.
* `Dispatch.strides` counts the events of a run that leave less to do. `Upholds.run`: `Q` holds
  throughout, and there are no more strides than there was to do.
* `Exchange.Intends rule x c`: the engine may set out to do `c` next. `Dispatch.GoesOn rule d`: the
  side of the caller makes progress, or the engine does with whatever it sets out to do.
* `Upholds.goesOn`: under a `Lively` rule a request goes on as long as it has not ended.
  `Upholds.outcome_of_brisk`: so there comes an outcome in every run that makes progress until then
  (`Brisk`).
-/

namespace EndpointClient

open Http (Chunks)

/-- What an engine may do in an exchange. -/
abbrev EngineRule := Exchange → CallEvent → Prop

namespace Exchange

variable {cs : Chunks} {x x' : Exchange} {c : CallEvent} {rule : EngineRule}

theorem CallMove.outcome? (hm : x.CallMove c x') : x'.outcome? = x.outcome? := by
  rw [Exchange.outcome?, Exchange.outcome?, hm.stage]

/-- A property that an exchange has at its start, and that no move breaks as long as the engine
keeps to a rule. -/
structure Stable (rule : EngineRule) (q : EngineRequest) (e : Entity) (Q : Exchange → Prop) :
    Prop where
  start : ∀ capacity, Q (.start capacity q e)
  write : ∀ {x x' : Exchange}, x.Ongoing e.chunks → Q x → x.WriteMove x' → Q x'
  call : ∀ {x x' : Exchange} {c : CallEvent}, x.Ongoing e.chunks → Q x → rule x c →
    x.CallMove c x' → Q x'

inductive Intends (rule : EngineRule) (x : Exchange) : CallEvent → Prop where
  | ask (hc : x.call.isRunning = true) (ha : x.asked = []) (hr : rule x .ask) : Intends rule x .ask
  | pull (hc : x.call.isRunning = true) (hb : x.bodyHeld = true) (he : x.bodyEnd = none)
      (hr : rule x .pull) : Intends rule x .pull
  | dropBody (hc : x.call.isRunning = true) (hb : x.bodyHeld = true) (hr : rule x .dropBody) :
      Intends rule x .dropBody
  | finish {how : CallEnd} (hc : x.call.isRunning = true) (ha : x.asked ≠ [])
      (hr : rule x (.finish how)) : Intends rule x (.finish how)

/-- The writing side has come to a stop in front of the outcome. -/
structure Blocked (x : Exchange) : Prop where
  waits : x.write = none
  open_ : ∀ o, x.stage ≠ .done o

/-- The engine has something to do whenever the writing side waits. -/
def Lively (rule : EngineRule) (cs : Chunks) (Q : Exchange → Prop) : Prop :=
  ∀ x, x.Ongoing cs → Q x → x.Blocked → ∃ c, x.Intends rule c

namespace Ongoing

theorem running (h : x.Ongoing cs) (hc : ∀ how, x.call ≠ .ended how) :
    x.call.isRunning = true := by
  cases hx : x.call with
  | running => rfl
  | ended how => exact absurd hx (hc how)
  | dropped => exact absurd hx h.alive

theorem ended (h : x.Ongoing cs) (hc : x.call.isRunning = false) : ∃ how, x.call = .ended how := by
  cases hx : x.call with
  | running => simp [hx, CallState.isRunning] at hc
  | ended how => exact ⟨how, rfl⟩
  | dropped => exact absurd hx h.alive

/-- The writing side waits for room, which the reader is there to make, or for the call. -/
theorem wait (h : x.Ongoing cs) (hw : x.Blocked) :
    (∃ part rest, x.delivery = .writing part rest ∧ x.pipe.readerGone = false ∧
      x.pipe.buffer ≠ []) ∨ x.call.isRunning = true ∧ x.pipe.writerGone = true := by
  cases write_wait h.account.part_ne_nil hw.waits with
  | @room part rest hs hd hp hr =>
    refine .inl ⟨part, rest, hd, ?_, fun hb => ?_⟩
    · simp only [Pipe.refuses, Bool.or_eq_false_iff] at hp
      exact hp.1.1
    · have hpos := x.pipe.capacity_pos
      rw [Pipe.room, hb, List.length_nil] at hr
      omega
  | call hs hc =>
    refine .inr ⟨h.running hc, ?_⟩
    rw [← Bool.not_eq_false, h.account.open_iff, hs]
    intro e
    cases e
  | done hs => exact absurd hs (hw.open_ _)
  | abandoned hs => exact absurd hs h.kept

/-- What an engine sets out to do it does, where there are bytes to read or the writing side is
gone. -/
theorem moves_of_ready (h : x.Ongoing cs) (hp : x.pipe.buffer ≠ [] ∨ x.pipe.writerGone = true)
    (hc : x.Intends rule c) : x.CallMove c (x.callStep c) := by
  cases hc with
  | ask hrun ha hr =>
    have hawaits : x.awaitsAsk = true := by
      simp [awaitsAsk, hrun, ha, h.staged.not_aborted h.kept]
    simpa [callStep, ask, hawaits] using CallMove.asked hawaits
  | pull hrun hb he hr =>
    by_cases hne : x.pipe.buffer = []
    · have hgone := hp.resolve_left (absurd hne)
      cases hs : x.pipe.shut with
      | true => exact pull_ended hb he hne hs
      | false => exact pull_cut hb he hne hs hgone
    · exact pull_chunk hb he hne
  | dropBody hrun hb hr => simpa [callStep, hb] using CallMove.dropped hb
  | @finish how hrun ha hr =>
    simpa [callStep, finish, hrun, ha] using @CallMove.finished x how hrun ha

/-- What an engine sets out to do while the writing side waits, it does. -/
theorem moves (h : x.Ongoing cs) (hw : x.Blocked) (hc : x.Intends rule c) :
    x.CallMove c (x.callStep c) := by
  -- a writer that does not wait for room waits for the call, and is gone
  rcases h.wait hw with ⟨_, _, -, -, hfull⟩ | ⟨-, hgone⟩
  · exact h.moves_of_ready (.inl hfull) hc
  · exact h.moves_of_ready (.inr hgone) hc

end Ongoing
end Exchange

namespace Dispatch

variable {rule : EngineRule} {Q : Exchange → Prop} {r : ClientRequest} {e : Entity}
  {d d' : Dispatch} {x : Exchange}

/-- An event in which the caller does not give up and the engine keeps to its rule. -/
def Permits (rule : EngineRule) (d : Dispatch) : DispatchEvent → Prop
  | .advance => True
  | .call c => ∀ x, d.work = .streamed x → rule x c
  | .abandon => False

/-- A run in which the caller does not give up and the engine keeps to its rule. -/
def Obeys (rule : EngineRule) (d : Dispatch) : List (Nat × DispatchEvent) → Prop
  | [] => True
  | (now, ev) :: es => d.Permits rule ev ∧ (d.step now ev).1.Obeys rule es

/-- How many events of a run leave less to do. -/
def strides (d : Dispatch) : List (Nat × DispatchEvent) → Nat
  | [] => 0
  | (now, ev) :: es =>
    (if (d.step now ev).1.left < d.left then 1 else 0) + (d.step now ev).1.strides es

/-- A run in which every event leaves less to do, until the request has ended. -/
def Brisk (d : Dispatch) : List (Nat × DispatchEvent) → Prop
  | [] => True
  | (now, ev) :: es =>
    (d.ended = none → (d.step now ev).1.left < d.left) ∧ (d.step now ev).1.Brisk es

def Intends (rule : EngineRule) (d : Dispatch) (c : CallEvent) : Prop :=
  ∃ x, d.work = .streamed x ∧ x.Intends rule c

/-- The side of the caller makes progress, or the engine does, whatever it sets out to do. -/
def GoesOn (rule : EngineRule) (d : Dispatch) : Prop :=
  (∀ now, (d.step now .advance).1.left < d.left) ∨
    (∃ c, d.Intends rule c) ∧
      ∀ c, d.Intends rule c → ∀ now, (d.step now (.call c)).1.left < d.left

/-- A request with an entity that is still to begin, or whose exchange has a property. -/
inductive Upholds (Q : Exchange → Prop) (r : ClientRequest) (e : Entity) (d : Dispatch) :
    Prop where
  | unbegun (hw : d.work = .unbegun) (hr : d.request = r) (he : d.ended = none)
  | streamed {x : Exchange} (hw : d.work = .streamed x) (hx : x.Ongoing e.chunks) (hq : Q x)
      (he : d.ended = x.outcome?.map .completed)

theorem upholds_start (mode : SendMode) (capacity : Nat) (r : ClientRequest) (e : Entity) :
    (start mode capacity r).Upholds Q r e :=
  .unbegun rfl rfl rfl

theorem run_cons (d : Dispatch) (u : Nat × DispatchEvent) (es : List (Nat × DispatchEvent)) :
    (d.run (u :: es)).1 = ((d.step u.1 u.2).1.run es).1 := rfl

theorem ended_run {o : DispatchEnd} (h : d.ended = some o) (es : List (Nat × DispatchEvent)) :
    (d.run es).1.ended = some o := by
  induction es generalizing d with
  | nil => exact h
  | cons u es ih => exact ih (ended_step h u.1 u.2)

theorem permits_of_work {c : CallEvent} (hw : d.work = .streamed x) (hc : rule x c) :
    d.Permits rule (.call c) := by
  intro x' hw'
  rw [hw] at hw'
  cases hw'
  exact hc

/-- The side of the caller alone breaks no rule of the engine. -/
theorem obeys_advances (rule : EngineRule) (d : Dispatch) (n now : Nat) :
    d.Obeys rule (List.replicate n (now, .advance)) := by
  induction n generalizing d with
  | zero => trivial
  | succ n ih => exact ⟨trivial, ih _⟩

theorem brisk_of_ended {o : DispatchEnd} (h : d.ended = some o)
    (es : List (Nat × DispatchEvent)) : d.Brisk es := by
  induction es generalizing d with
  | nil => trivial
  | cons u es ih =>
    refine ⟨fun hn => ?_, ih (ended_step h u.1 u.2)⟩
    rw [h] at hn
    cases hn

theorem GoesOn.left_pos (h : d.GoesOn rule) : 0 < d.left := by
  rcases h with hlt | ⟨⟨c, hc⟩, hlt⟩
  · exact Nat.zero_lt_of_lt (hlt 0)
  · exact Nat.zero_lt_of_lt (hlt c hc 0)

namespace Upholds

theorem wrote (hx : x.Ongoing e.chunks) (hq : Q x)
    (hQ : Exchange.Stable rule r.engineRequest e Q) (hw : d.work = .streamed x) {x' : Exchange}
    (hwrite : x.write = some x') (hw' : d'.work = .streamed x')
    (he' : d'.ended = x'.outcome?.map .completed) : d'.Upholds Q r e ∧ d'.left < d.left := by
  have hmove := Exchange.write_move hx.account.part_ne_nil hwrite
  refine ⟨.streamed hw' (hx.writeMove hmove) (hQ.write hx hq hmove) he', ?_⟩
  rw [left_streamed hw', left_streamed hw]
  exact hmove.left_lt hx.account.part_ne_nil

theorem change (h : d.Upholds Q r e) (hQ : Exchange.Stable rule r.engineRequest e Q)
    (hr : r.entity = some e) {now : Nat} {ev : DispatchEvent} (hev : d.Permits rule ev)
    (hc : d.Change now ev d') : d'.Upholds Q r e ∧ d'.left < d.left := by
  cases h with
  | unbegun hw hd he =>
    cases hc with
    | begun hw' he' =>
      have hwork : (d.begin now).work = .streamed (.start d.capacity r.engineRequest e) := by
        simp [begin, hd, hr]
      refine ⟨.streamed hwork (Exchange.ongoing_start _ _ _) (hQ.start _) he, ?_⟩
      rw [left_streamed hwork]
      simp [left, hw, hd, hr]
    | cutOff | dropped => exact hev.elim
    | wrote hw' | concluded hw' | called hw' | returned _ hw' | brokeDown _ hw' =>
      rw [hw] at hw'
      cases hw'
  | @streamed x hw hx hq he =>
    cases hc with
    | wrote hw' he' hwrite ho =>
      cases hw.symm.trans hw'
      exact wrote hx hq hQ hw hwrite rfl (by simp [he', ho])
    | concluded hw' he' hwrite ho =>
      cases hw.symm.trans hw'
      exact wrote hx hq hQ hw hwrite rfl (by simp [ho])
    | called hw' hmove =>
      cases hw.symm.trans hw'
      have houtcome := congrArg (·.map DispatchEnd.completed) hmove.outcome?
      refine ⟨.streamed rfl (hx.callMove hmove) (hQ.call hx hq (hev x hw) hmove)
        (he.trans houtcome.symm), ?_⟩
      rw [left_streamed rfl, left_streamed hw]
      exact hmove.left_lt
    | cutOff | dropped => exact hev.elim
    | begun hw' | returned _ hw' | brokeDown _ hw' =>
      rw [hw] at hw'
      cases hw'

theorem step (h : d.Upholds Q r e) (hQ : Exchange.Stable rule r.engineRequest e Q)
    (hr : r.entity = some e) {ev : DispatchEvent} (hev : d.Permits rule ev) (now : Nat) :
    (d.step now ev).1.Upholds Q r e ∧ (d.step now ev).1.left ≤ d.left := by
  rcases d.step_change now ev with hsame | hc
  · rw [hsame]
    exact ⟨h, Nat.le_refl _⟩
  · obtain ⟨hd, hlt⟩ := h.change hQ hr hev hc
    exact ⟨hd, Nat.le_of_lt hlt⟩

/-- A run keeps the property, and takes no more strides than there is to do. -/
theorem run (h : d.Upholds Q r e) (hQ : Exchange.Stable rule r.engineRequest e Q)
    (hr : r.entity = some e) {es : List (Nat × DispatchEvent)} (hes : d.Obeys rule es) :
    (d.run es).1.Upholds Q r e ∧ d.strides es + (d.run es).1.left ≤ d.left := by
  induction es generalizing d with
  | nil =>
    refine ⟨h, ?_⟩
    rw [strides, Nat.zero_add]
    exact Nat.le_refl _
  | cons u es ih =>
    obtain ⟨hd, hle⟩ := h.step hQ hr hes.1 u.1
    obtain ⟨hrun, hstrides⟩ := ih hd hes.2
    rw [run_cons, strides]
    refine ⟨hrun, ?_⟩
    split <;> omega

theorem goesOn (h : d.Upholds Q r e) (hQ : Exchange.Stable rule r.engineRequest e Q)
    (hlive : Exchange.Lively rule e.chunks Q) (hr : r.entity = some e) (he : d.ended = none) :
    d.GoesOn rule := by
  have hpermits : d.Permits rule .advance := trivial
  have hcaller {now : Nat} {dj : Dispatch × Journal} (ha : d.advance now = some dj) :
      (d.step now .advance).1.left < d.left := by
    rw [Dispatch.step, ha]
    exact (h.change hQ hr hpermits (advance_change ha)).2
  cases h with
  | unbegun hw hd hn =>
    refine .inl fun now => ?_
    have ha : d.advance now = some (d.begin now, []) := by simp [Dispatch.advance, he, hw]
    exact hcaller ha
  | @streamed x hw hx hq hended =>
    cases hwrite : x.write with
    | some x' =>
      refine .inl fun now => ?_
      have ha : d.advance now = some (d.withExchange now x') := by
        simp [Dispatch.advance, he, hw, hwrite]
      exact hcaller ha
    | none =>
      have hblocked : x.Blocked := by
        refine ⟨hwrite, fun o hs => ?_⟩
        rw [Exchange.outcome?_done hs, he] at hended
        cases hended
      obtain ⟨c, hc⟩ := hlive x hx hq hblocked
      refine .inr ⟨⟨c, x, hw, hc⟩, fun c' hintends now => ?_⟩
      obtain ⟨x', hw', hc'⟩ := hintends
      rw [hw] at hw'
      cases hw'
      rw [Dispatch.step, callStep_streamed hw, left_streamed rfl, left_streamed hw]
      exact (hx.moves hblocked hc').left_lt

theorem completed (h : d.Upholds Q r e) {o : DispatchEnd} (ho : d.ended = some o) :
    ∃ x outcome, d.work = .streamed x ∧ x.Ongoing e.chunks ∧ Q x ∧ x.stage = .done outcome ∧
      o = .completed outcome := by
  cases h with
  | unbegun hw hd he =>
    rw [he] at ho
    cases ho
  | @streamed x hw hx hq he =>
    rw [he, Option.map_eq_some_iff] at ho
    obtain ⟨outcome, hout, rfl⟩ := ho
    exact ⟨x, outcome, hw, hx, hq, Exchange.stage_of_outcome? hout, rfl⟩

/-- A run that makes progress as long as the request has not ended comes to its end, within as many
events as there was to do. -/
theorem ended_of_brisk (h : d.Upholds Q r e) (hQ : Exchange.Stable rule r.engineRequest e Q)
    (hlive : Exchange.Lively rule e.chunks Q) (hr : r.entity = some e)
    {es : List (Nat × DispatchEvent)} (hes : d.Obeys rule es) (hb : d.Brisk es)
    (hl : d.left ≤ es.length) : ∃ o, (d.run es).1.ended = some o := by
  induction es generalizing d with
  | nil =>
    cases he : d.ended with
    | some o => exact ⟨o, he⟩
    | none =>
      have hpos := (h.goesOn hQ hlive hr he).left_pos
      rw [List.length_nil] at hl
      omega
  | cons u es ih =>
    cases he : d.ended with
    | some o => exact ⟨o, ended_run he _⟩
    | none =>
      have hlt := hb.1 he
      rw [List.length_cons] at hl
      rw [run_cons]
      exact ih (h.step hQ hr hes.1 u.1).1 hes.2 hb.2 (by omega)

theorem outcome_of_brisk (h : d.Upholds Q r e) (hQ : Exchange.Stable rule r.engineRequest e Q)
    (hlive : Exchange.Lively rule e.chunks Q) (hr : r.entity = some e)
    {es : List (Nat × DispatchEvent)} (hes : d.Obeys rule es) (hb : d.Brisk es)
    (hl : d.left ≤ es.length) : ∃ outcome, (d.run es).1.ended = some (.completed outcome) := by
  obtain ⟨o, ho⟩ := h.ended_of_brisk hQ hlive hr hes hb hl
  obtain ⟨_, outcome, -, -, -, -, rfl⟩ := (h.run hQ hr hes).1.completed ho
  exact ⟨outcome, ho⟩

end Upholds
end Dispatch
end EndpointClient
