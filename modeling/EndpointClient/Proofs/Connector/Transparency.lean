import EndpointClient.Proofs.Connector.Change
import EndpointClient.Proofs.Connector.Faithful

/-!
# EndpointClient.Proofs.Connector.Transparency

The pipe does not show: a request with an entity comes to the same as one call of the engine on the
whole body.

* `Dispatch.Carries answer r e d`: the request `r` is still to begin, or its exchange is faithful
  and has an outcome if and only if the request has ended. `Carries.turn`: no turn breaks this.
* `Dispatch.left` is what is left to do. A turn that changes anything leaves less
  (`Carries.turn`), and before the end a turn of one side or the other does (`Carries.enabled`), so
  that each round makes progress (`Carries.round`).
* `Ticket.Told.play`: a request in the background goes the way it would in the foreground.
* `pipe_transparent`: under every schedule the engine gets the request and all bytes of its entity,
  once, and what it answers is what the caller is handed.
-/

namespace EndpointClient
namespace Dispatch

variable {answer : EngineAnswer} {r : ClientRequest} {e : Entity} {d d' : Dispatch} {x : Exchange}

def left (d : Dispatch) : Nat :=
  match d.work with
  | .unbegun => d.request.entity.elim 2 fun e =>
      (Exchange.start d.capacity d.request.engineRequest e).left + 1
  | .inline _ => 1
  | .streamed x => x.left

theorem left_streamed (hw : d.work = .streamed x) : d.left = x.left := by
  simp [left, hw]

/-- A request with an entity on its way to a faithful exchange, or to the outcome of one. -/
inductive Carries (answer : EngineAnswer) (r : ClientRequest) (e : Entity) (d : Dispatch) :
    Prop where
  | unbegun (hw : d.work = .unbegun) (hr : d.request = r) (he : d.ended = none)
  | streamed {x : Exchange} (hw : d.work = .streamed x)
      (hx : x.Faithful answer r.engineRequest e.chunks)
      (he : d.ended = x.outcome?.map .completed)

theorem carries_start (mode : SendMode) (capacity : Nat) (r : ClientRequest) (e : Entity) :
    (start mode capacity r).Carries answer r e :=
  .unbegun rfl rfl rfl

/-! ## Steps on an exchange -/

theorem work_withExchange (d : Dispatch) (now : Nat) (x : Exchange) :
    (d.withExchange now x).1.work = .streamed x := by
  unfold withExchange
  cases x.outcome? <;> rfl

theorem ended_withExchange (he : d.ended = none) (now : Nat) (x : Exchange) :
    (d.withExchange now x).1.ended = x.outcome?.map .completed := by
  unfold withExchange
  cases x.outcome? with
  | none => exact he
  | some o => rfl

namespace Carries

theorem advance (h : d.Carries answer r e) (hr : r.entity = some e) {now : Nat} {j : Journal}
    (ha : d.advance now = some (d', j)) : d'.Carries answer r e ∧ d'.left < d.left := by
  cases h with
  | unbegun hw hd he =>
    have hbegin : d.begin now = d' := by
      simp only [Dispatch.advance, he, Option.isSome_none, hw] at ha
      simpa using congrArg (·.map (·.1)) ha
    have hwork : (d.begin now).work = .streamed (.start d.capacity r.engineRequest e) := by
      simp [begin, hd, hr]
    subst hbegin
    refine ⟨.streamed hwork (Exchange.faithful_start _ _ _) he, ?_⟩
    rw [left_streamed hwork]
    simp [left, hw, hd, hr]
  | @streamed x hw hx he =>
    have hnone : d.ended = none := by
      cases hd : d.ended with
      | none => rfl
      | some _ =>
        rw [advance_of_ended hd] at ha
        cases ha
    simp only [Dispatch.advance, hnone, Option.isSome_none, hw] at ha
    cases hwrite : x.write with
    | none => simp [hwrite] at ha
    | some x' =>
      have hd' : d' = (d.withExchange now x').1 := by
        simp only [hwrite, Option.map_some] at ha
        simpa using (congrArg (·.map (·.1)) ha).symm
      have hmove := Exchange.write_move hx.account.part_ne_nil hwrite
      have hwork := work_withExchange d now x'
      rw [hd']
      refine ⟨.streamed hwork (hx.writeMove hmove) (ended_withExchange hnone now x'), ?_⟩
      rw [left_streamed hwork, left_streamed hw]
      exact hmove.left_lt hx.account.part_ne_nil

theorem callStep (h : d.Carries answer r e) (hcs : e.chunks.failure? = none) {u : Turn}
    {c : CallEvent} (hc : d.call? answer u = some c) (now : Nat) :
    (d.callStep now c).1.Carries answer r e ∧
      ((d.callStep now c).1 = d ∨ (d.callStep now c).1.left < d.left) := by
  cases h with
  | unbegun hw hd he =>
    simp [call?, hw] at hc
  | @streamed x hw hx he =>
    have hheeds : x.Heeds answer c := by
      simp only [call?, hw] at hc
      exact Exchange.heeds_of_call? hc
    rw [callStep_streamed hw]
    rcases x.callStep_move c with hsame | hmove
    · have hd : { d with work := .streamed (x.callStep c) } = d := by rw [hsame, ← hw]
      rw [hd]
      exact ⟨.streamed hw hx he, .inl rfl⟩
    · have houtcome : (x.callStep c).outcome? = x.outcome? := by
        simp only [Exchange.outcome?, hmove.stage]
      refine ⟨.streamed rfl (hx.callMove hcs hmove hheeds) (houtcome ▸ he), .inr ?_⟩
      rw [left_streamed rfl, left_streamed hw]
      exact hmove.left_lt

end Carries

/-! ## Turns -/

theorem turn_caller (d : Dispatch) (now : Nat) :
    d.turn answer now .caller = (d.step now .advance).1 := rfl

theorem turn_call {u : Turn} {c : CallEvent} (hu : u ≠ .caller) (hc : d.call? answer u = some c)
    (now : Nat) : d.turn answer now u = (d.callStep now c).1 := by
  cases u with
  | caller => exact absurd rfl hu
  | engine => simp [turn, event?, hc, step]
  | handOn => simp [turn, event?, hc, step]
  | dropBody => simp [turn, event?, hc, step]
  | dropHandle => simp [turn, event?, hc, step]

theorem turn_idle {u : Turn} (hu : u ≠ .caller) (hc : d.call? answer u = none) (now : Nat) :
    d.turn answer now u = d := by
  cases u with
  | caller => exact absurd rfl hu
  | engine => simp [turn, event?, hc]
  | handOn => simp [turn, event?, hc]
  | dropBody => simp [turn, event?, hc]
  | dropHandle => simp [turn, event?, hc]

theorem call?_dropHandle (d : Dispatch) : d.call? answer .dropHandle = none := by
  unfold call?
  cases d.work <;> rfl

theorem ended_turn {o : DispatchEnd} (h : d.ended = some o) (now : Nat) (u : Turn) :
    (d.turn answer now u).ended = some o := by
  unfold turn
  cases d.event? answer u with
  | none => exact h
  | some ev => exact ended_step h now ev

theorem play_cons (d : Dispatch) (u : Nat × Turn) (ts : List (Nat × Turn)) :
    d.play answer (u :: ts) = (d.turn answer u.1 u.2).play answer ts := rfl

theorem play_append (d : Dispatch) (ts ts' : List (Nat × Turn)) :
    d.play answer (ts ++ ts') = (d.play answer ts).play answer ts' :=
  List.foldl_append

theorem ended_play {o : DispatchEnd} (h : d.ended = some o) (ts : List (Nat × Turn)) :
    (d.play answer ts).ended = some o := by
  induction ts generalizing d with
  | nil => exact h
  | cons u ts ih => exact ih (ended_turn h u.1 u.2)

namespace Carries

theorem turn (h : d.Carries answer r e) (hr : r.entity = some e) (hcs : e.chunks.failure? = none)
    (now : Nat) (u : Turn) : (d.turn answer now u).Carries answer r e ∧
      (d.turn answer now u = d ∨ (d.turn answer now u).left < d.left) := by
  by_cases hu : u = .caller
  · subst hu
    rw [turn_caller, step]
    cases ha : d.advance now with
    | none => exact ⟨h, .inl rfl⟩
    | some dj =>
      obtain ⟨hd, hlt⟩ := h.advance hr ha
      exact ⟨hd, .inr hlt⟩
  · cases hc : d.call? answer u with
    | none =>
      rw [turn_idle hu hc]
      exact ⟨h, .inl rfl⟩
    | some c =>
      rw [turn_call hu hc]
      exact h.callStep hcs hc now

theorem play (h : d.Carries answer r e) (hr : r.entity = some e) (hcs : e.chunks.failure? = none)
    (ts : List (Nat × Turn)) : (d.play answer ts).Carries answer r e := by
  induction ts generalizing d with
  | nil => exact h
  | cons u ts ih => exact ih (h.turn hr hcs u.1 u.2).1

/-- Before the end, a turn of one side or the other leaves less to do. -/
theorem enabled (h : d.Carries answer r e) (hr : r.entity = some e)
    (hcs : e.chunks.failure? = none) (he : d.ended = none) :
    (∀ now, (d.turn answer now .caller).left < d.left) ∨
      ∀ now, (d.turn answer now .engine).left < d.left := by
  have hcaller {now : Nat} {dj : Dispatch × Journal} (ha : d.advance now = some dj) :
      (d.turn answer now .caller).left < d.left := by
    rw [turn_caller, step, ha]
    exact (h.advance hr ha).2
  cases h with
  | unbegun hw hd hn =>
    refine .inl fun now => ?_
    have ha : d.advance now = some (d.begin now, []) := by simp [Dispatch.advance, he, hw]
    exact hcaller ha
  | @streamed x hw hx hended =>
    have hover (o : SendOutcome) : x.stage ≠ .done o := by
      intro hs
      rw [Exchange.outcome?_done hs, he] at hended
      cases hended
    rcases hx.enabled hcs hover with ⟨x', hwrite⟩ | ⟨c, hc, hmove⟩
    · refine .inl fun now => ?_
      have ha : d.advance now = some (d.withExchange now x') := by
        simp [Dispatch.advance, he, hw, hwrite]
      exact hcaller ha
    · refine .inr fun now => ?_
      have hcall : d.call? answer .engine = some c := by
        simpa [call?, hw, Exchange.call?] using hc
      have hturn : d.turn answer now .engine = (d.callStep now c).1 :=
        turn_call (by intro h; cases h) hcall now
      rw [hturn, callStep_streamed hw, left_streamed rfl, left_streamed hw]
      exact hmove.left_lt

/-- Under a schedule something is done, or nobody could do anything at any turn. -/
theorem play_lt (h : d.Carries answer r e) (hr : r.entity = some e)
    (hcs : e.chunks.failure? = none) (ts : List (Nat × Turn)) :
    (d.play answer ts).left < d.left ∨
      d.play answer ts = d ∧ ∀ u ∈ ts, d.turn answer u.1 u.2 = d := by
  -- idle turns leave the request as it is, so the first that is not idle is one from `d`
  induction ts generalizing d with
  | nil => exact .inr ⟨rfl, fun u hu => nomatch hu⟩
  | cons u ts ih =>
    obtain ⟨hd, hturn⟩ := h.turn hr hcs u.1 u.2
    rw [play_cons]
    rcases hturn with hsame | hlt
    · rw [hsame]
      refine (ih h).imp_right fun ⟨hplay, hidle⟩ => ⟨hplay, fun u' hu' => ?_⟩
      rcases List.mem_cons.1 hu' with rfl | hmem
      · exact hsame
      · exact hidle u' hmem
    · rcases ih hd with hless | ⟨hplay, -⟩
      · exact .inl (Nat.lt_trans hless hlt)
      · exact .inl (by rwa [hplay])

/-- Before the end, each round leaves less to do. -/
theorem round (h : d.Carries answer r e) (hr : r.entity = some e)
    (hcs : e.chunks.failure? = none) (he : d.ended = none) {ts : List (Nat × Turn)}
    (hts : Turn.Round ts) : (d.play answer ts).left < d.left := by
  refine (h.play_lt hr hcs ts).resolve_right fun hidle => ?_
  have hstuck {u : Turn} (hu : u ∈ ts.map (·.2)) :
      ¬ ∀ now, (d.turn answer now u).left < d.left := by
    obtain ⟨⟨now, u⟩, hmem, rfl⟩ := List.mem_map.1 hu
    intro hlt
    have := hlt now
    rw [hidle.2 _ hmem] at this
    exact Nat.lt_irrefl _ this
  exact (h.enabled hr hcs he).elim (hstuck hts.1) (hstuck hts.2)

theorem rounds (h : d.Carries answer r e) (hr : r.entity = some e)
    (hcs : e.chunks.failure? = none) {rounds : List (List (Nat × Turn))}
    (hrounds : ∀ ts ∈ rounds, Turn.Round ts) (hl : d.left ≤ rounds.length) :
    (d.play answer rounds.flatten).ended.isSome = true := by
  induction rounds generalizing d with
  | nil =>
    cases he : d.ended with
    | some o => rw [List.flatten_nil, ended_play he]; rfl
    | none =>
      rw [List.length_nil] at hl
      rcases h.enabled hr hcs he with hlt | hlt
      · have := hlt 0
        omega
      · have := hlt 0
        omega
  | cons ts rounds ih =>
    rw [List.flatten_cons, play_append]
    cases he : d.ended with
    | some o => rw [ended_play (ended_play he ts)]; rfl
    | none =>
      have hlt := h.round hr hcs he (hrounds ts List.mem_cons_self)
      rw [List.length_cons] at hl
      exact ih (h.play hr hcs ts) (fun ts' hts' => hrounds ts' (List.mem_cons_of_mem ts hts'))
        (by omega)

theorem ended (h : d.Carries answer r e) (hcs : e.chunks.failure? = none) {o : DispatchEnd}
    (he : d.ended = some o) :
    o = .completed ((answer r.engineRequest e.chunks.bytes).mapError .ofEngine) ∧
      d.asked = [r.engineRequest] ∧ d.received = e.chunks.bytes := by
  cases h with
  | unbegun hw hd hn =>
    rw [hn] at he
    cases he
  | @streamed x hw hx hended =>
    rw [hended, Option.map_eq_some_iff] at he
    obtain ⟨outcome, hout, rfl⟩ := he
    obtain ⟨hasked, hreceived, rfl⟩ := hx.done hcs (Exchange.stage_of_outcome? hout)
    refine ⟨rfl, ?_, ?_⟩
    · simpa [asked, hw] using hasked
    · simpa [received, hw] using hreceived

theorem soFar (h : d.Carries answer r e) :
    (d.asked = [] ∨ d.asked = [r.engineRequest]) ∧ d.received <+: e.chunks.bytes := by
  cases h with
  | unbegun hw hd hn => simp [asked, received, hw]
  | @streamed x hw hx hended =>
    simp only [asked, received, hw]
    exact ⟨hx.asked, (List.prefix_append _ _).trans hx.account.upTo.isPrefix⟩

end Carries
end Dispatch

/-! ## In the background -/

namespace Ticket

variable {answer : EngineAnswer} {t : Ticket}

theorem Told.dispatch_advance (h : t.Told) (now : Nat) :
    (t.step now .advance).1.dispatch = (t.dispatch.step now .advance).1 := by
  simp only [Ticket.step, proceed, Dispatch.step]
  cases ht : t.ended with
  | some _ =>
    obtain ⟨e, he⟩ := h.dispatch_ended (by rw [ht]; rfl)
    rw [Dispatch.advance_of_ended he]
    rfl
  | none =>
    cases t.dispatch.advance now with
    | none => rfl
    | some dj => exact dispatch_withDispatch t dj.1

theorem turn_call {u : Turn} {c : CallEvent} (hu : u ≠ .caller)
    (hc : t.dispatch.call? answer u = some c) (now : Nat) :
    t.turn answer now u = (t.step now (.call c)).1 := by
  cases u with
  | caller => exact absurd rfl hu
  | engine => simp [turn, event?, hc]
  | handOn => simp [turn, event?, hc]
  | dropBody => simp [turn, event?, hc]
  | dropHandle =>
    rw [Dispatch.call?_dropHandle] at hc
    cases hc

theorem turn_idle {u : Turn} (hu : u ≠ .caller) (hc : t.dispatch.call? answer u = none)
    (now : Nat) : t.turn answer now u = t ∨ t.turn answer now u = t.dropHandle := by
  cases u with
  | caller => exact absurd rfl hu
  | engine => simp [turn, event?, hc]
  | handOn => simp [turn, event?, hc]
  | dropBody => simp [turn, event?, hc]
  | dropHandle => exact .inr rfl

theorem Told.turn (h : t.Told) (now : Nat) (u : Turn) : (t.turn answer now u).Told ∧
    (t.turn answer now u).dispatch = t.dispatch.turn answer now u := by
  by_cases hu : u = .caller
  · subst hu
    exact ⟨h.step now .advance, h.dispatch_advance now⟩
  · cases hc : t.dispatch.call? answer u with
    | some c =>
      rw [turn_call hu hc, Dispatch.turn_call hu hc]
      exact ⟨h.step now (.call c), dispatch_withDispatch _ _⟩
    | none =>
      rw [Dispatch.turn_idle hu hc]
      rcases turn_idle hu hc now with ht | ht
      · rw [ht]
        exact ⟨h, rfl⟩
      · rw [ht]
        exact ⟨h.step now .dropHandle, rfl⟩

/-- A request in the background goes the way it would in the foreground. -/
theorem Told.play (h : t.Told) (ts : List (Nat × Turn)) :
    (t.play answer ts).Told ∧ (t.play answer ts).dispatch = t.dispatch.play answer ts := by
  induction ts generalizing t with
  | nil => exact ⟨h, rfl⟩
  | cons u ts ih =>
    obtain ⟨hu, hd⟩ : (t.turn answer u.1 u.2).Told ∧ _ := h.turn u.1 u.2
    obtain ⟨htold, hplay⟩ := ih hu
    refine ⟨htold, hplay.trans ?_⟩
    rw [hd, Dispatch.play_cons]

theorem Told.heard_eq (h : t.Told) {o : SendOutcome}
    (ho : ∀ e, t.dispatch.ended = some e → e = .completed o) :
    t.heard = if t.dispatch.ended.isSome then [o] else [] := by
  rw [h.heard]
  cases he : t.dispatch.ended with
  | none => rfl
  | some e =>
    rw [ho e he]
    rfl

end Ticket

/-- **The pipe is transparent.** Let the engine read its request body to the end and then answer,
and let the two sides take their turns in any order. The engine is asked once at most, by the
request itself, and reads the bytes of the entity from the first. When the request ends, the engine
was asked and has read all of the entity, and the caller is handed its answer; in the background the
callback is. And it does end, after as many rounds as there is work left. -/
theorem pipe_transparent (mode : SendMode) (capacity : Nat) (r : ClientRequest) (e : Entity)
    (hr : r.entity = some e) (he : e.chunks.failure? = none) (answer : EngineAnswer)
    (breaks : SendOutcome → Option String) (ts : List (Nat × Turn)) :
    let q : EngineRequest := ⟨r.method, r.uri, r.headers, r.readTimeout⟩
    let outcome : SendOutcome := (answer q e.chunks.bytes).mapError fun err =>
      if err = .cancelled then .interrupted else .sendFailure err
    let d := (Dispatch.start mode capacity r).play answer ts
    let t := (Ticket.start mode capacity r breaks).play answer ts
    ((d.asked = [] ∨ d.asked = [q]) ∧ d.received <+: e.chunks.bytes) ∧
      (∀ o, d.ended = some o → o = .completed outcome ∧ d.asked = [q] ∧
        d.received = e.chunks.bytes) ∧
      (t.dispatch = d ∧ t.isFinished = d.ended.isSome ∧
        t.heard = if d.ended.isSome then [outcome] else []) ∧
      ∀ rounds : List (List (Nat × Turn)), (∀ ts ∈ rounds, Turn.Round ts) →
        d.left ≤ rounds.length →
          (d.play answer rounds.flatten).ended = some (.completed outcome) ∧
            (t.play answer rounds.flatten).heard = [outcome] := by
  intro q outcome d t
  have houtcome : (answer q e.chunks.bytes).mapError ConnectorError.ofEngine = outcome := by
    rw [funext Exchange.ofEngine_eq]
  have hend {d : Dispatch} (hd : d.Carries answer r e) (o : DispatchEnd) (ho : d.ended = some o) :
      o = .completed outcome ∧ d.asked = [q] ∧ d.received = e.chunks.bytes :=
    houtcome ▸ hd.ended he ho
  have hd : d.Carries answer r e := (Dispatch.carries_start mode capacity r e).play hr he ts
  obtain ⟨htold, hdispatch⟩ : t.Told ∧ t.dispatch = d :=
    (Ticket.told_start mode capacity r breaks).play ts
  refine ⟨hd.soFar, hend hd, ⟨hdispatch, ?_, ?_⟩, fun rounds hrounds hleft => ?_⟩
  · rw [Ticket.isFinished, htold.ended, hdispatch]
  · rw [← hdispatch]
    exact htold.heard_eq fun o ho => (hend hd o (hdispatch ▸ ho)).1
  · have hd' := hd.play hr he rounds.flatten
    have hsome := hd.rounds hr he hrounds hleft
    obtain ⟨htold', hdispatch'⟩ : (t.play answer rounds.flatten).Told ∧ _ :=
      htold.play rounds.flatten
    rw [hdispatch] at hdispatch'
    have hheard := htold'.heard_eq fun o ho => (hend hd' o (hdispatch' ▸ ho)).1
    rw [hdispatch', hsome, if_pos rfl] at hheard
    obtain ⟨o, ho⟩ := Option.isSome_iff_exists.1 hsome
    exact ⟨(hend hd' o ho).1 ▸ ho, hheard⟩

/-- Three bytes in three chunks through a pipe of one byte, to an engine that answers with what it
got. -/
theorem pipe_transparent_echo :
    let r : ClientRequest := ⟨.get, ⟨none, [], ['/'], none⟩, .empty, {},
      some (.stream [.ok [1, 2], .ok [], .ok [3]])⟩
    let answer : EngineAnswer := fun q bs => .ok ⟨.ok, q.headers, [.ok bs]⟩
    let d := (Dispatch.start .sync 0 r).play answer [(0, .engine), (1, .caller), (2, .caller)]
    d.left = 24 ∧ (d.play answer (List.replicate 24 [(3, .caller), (3, .engine)]).flatten).ended =
      some (.completed (.ok ⟨.ok, .empty, [.ok [1, 2, 3]]⟩)) :=
  ⟨rfl, ((pipe_transparent .sync 0 _ (.stream [.ok [1, 2], .ok [], .ok [3]]) rfl rfl
    (fun q bs => .ok ⟨.ok, q.headers, [.ok bs]⟩) CallbackGuard.neverBreaks
    [(0, .engine), (1, .caller), (2, .caller)]).2.2.2
      (List.replicate 24 [(3, .caller), (3, .engine)])
      (fun ts hts => by simp [List.eq_of_mem_replicate hts, Turn.Round]) (by decide)).1⟩

end EndpointClient
