import EndpointClient.Proofs.Connector.Rule

/-!
# EndpointClient.Proofs.Connector.EntityFailure

An entity that fails by itself, with an engine that reads its request body until that ends or
breaks, and then fails with what broke it.

* `Exchange.FailsWithBody blame` is the rule of such an engine: it does not let go of its body before
  it has seen the end of it, and a failure of the body becomes the failure `blame` of the call.
* `Ongoing.delivery_of_failure`: the writing then fails of nothing but the entity.
* `entity_failure_outcome`: the outcome is the failure of the entity, unless that has the kind of a
  broken pipe. Such a one is taken for an engine that let go of its body, and the outcome is what the
  engine makes of the truncated body.
-/

namespace EndpointClient

open Http (Chunks)

/-- The first failure of chunks is the one that the others before it lead up to. -/
theorem Http.Chunks.failure?_append_error (parts : List Bytes) (err : IoError) (rest : Chunks) :
    Chunks.failure? (parts.map .ok ++ .error err :: rest) = some err := by
  induction parts with
  | nil => rfl
  | cons part parts ih => exact ih

namespace Exchange

variable {cs : Chunks} {x x' : Exchange} {c : CallEvent} {blame : IoError → EngineError} {err : IoError}

/-- The engine reads its request body until that ends or breaks, and fails with what broke it. -/
def FailsWithBody (blame : IoError → EngineError) (x : Exchange) : CallEvent → Prop
  | .dropBody => x.bodyEnd ≠ none
  | .finish how => x.bodyEnd ≠ none ∧
      ∀ err, x.bodyEnd = some (.broken err) → how = .returned (.error (blame err))
  | _ => True

structure Relayed (blame : IoError → EngineError) (x : Exchange) : Prop where
  reading : x.bodyEnd = none → x.call.isRunning = true ∧ x.pipe.readerGone = false
  relayed : ∀ how, x.call = .ended how → ∀ err, x.bodyEnd = some (.broken err) →
    how = .returned (.error (blame err))

theorem Relayed.writeMove (hq : x.Relayed blame) (hm : x.WriteMove x') : x'.Relayed blame where
  reading := by rw [hm.bodyEnd, hm.call, hm.readerGone]; exact hq.reading
  relayed := by rw [hm.bodyEnd, hm.call]; exact hq.relayed

theorem Relayed.callMove (hq : x.Relayed blame) (hx : x.Ongoing cs) (hr : x.FailsWithBody blame c)
    (hm : x.CallMove c x') : x'.Relayed blame := by
  cases hm with
  | asked ha => exact ⟨hq.reading, hq.relayed⟩
  | chunk hb he hne => exact ⟨hq.reading, hq.relayed⟩
  | ended hb he hne hs => exact ⟨fun h => (nomatch h), fun _ _ _ h => nomatch h⟩
  | cut hb he hne hs hw =>
    refine ⟨fun h => (nomatch h), fun how hc => ?_⟩
    -- the body had not ended, so that the call is still under way
    have hc' : x.call = .ended how := hc
    have hrun := (hq.reading he).1
    rw [hc'] at hrun
    cases hrun
  | handedOn hc hb hh => exact ⟨hq.reading, hq.relayed⟩
  | dropped hb => exact ⟨fun h => absurd h hr, hq.relayed⟩
  | finished hc ha =>
    refine ⟨fun h => absurd h hr.1, fun how h => ?_⟩
    cases h
    exact hr.2
  | reaped hc hh => exact absurd hh (hx.staged.not_aborted hx.kept)

theorem stable_relayed (q : EngineRequest) (e : Entity) :
    Stable (FailsWithBody blame) q e (Relayed blame) where
  start _ := ⟨fun _ => ⟨rfl, rfl⟩, fun _ h => nomatch h⟩
  write _ hq hm := hq.writeMove hm
  call hx hq hr hm := hq.callMove hx hr hm

theorem lively_relayed (cs : Chunks) : Lively (FailsWithBody blame) cs (Relayed blame) := by
  intro x hx hq hw
  have hrun : x.call.isRunning = true := by
    rcases hx.wait hw with ⟨_, _, hd, -, -⟩ | ⟨hrun, -⟩
    · exact (hq.reading (hx.bodyEnd_of_writing hd)).1
    · exact hrun
  by_cases ha : x.asked = []
  · exact ⟨_, .ask hrun ha trivial⟩
  · cases he : x.bodyEnd with
    | none =>
      have hb : x.bodyHeld = true := by simp [bodyHeld, ha, (hq.reading he).2]
      exact ⟨_, .pull hrun hb he trivial⟩
    | some b =>
      have hend : x.bodyEnd ≠ none := he ▸ Option.some_ne_none b
      cases b with
      | clean =>
        refine ⟨.finish (.panicked ""), .finish hrun ha ⟨hend, fun err h => ?_⟩⟩
        rw [he] at h
        cases h
      | broken err =>
        refine ⟨.finish (.returned (.error (blame err))), .finish hrun ha ⟨hend, fun err' h => ?_⟩⟩
        rw [he] at h
        cases h
        rfl

/-- The writing fails of nothing but the entity. -/
theorem Ongoing.delivery_of_failure (h : x.Ongoing cs) (hq : x.Relayed blame)
    (hcs : cs.failure? = some err) {e : IoError} (hd : x.delivery = .failed e) : e = err := by
  cases hcs.symm.trans (h.failure_of_failed (fun hb => (hq.reading hb).2) hd)
  rfl

theorem Ongoing.not_finished (h : x.Ongoing cs) (hcs : cs.failure? = some err) :
    x.delivery ≠ .finished := by
  intro hd
  have hnone : cs.failure? = none := (hd ▸ h.account.upTo).2
  rw [hcs] at hnone
  cases hnone

theorem Ongoing.outcome_of_failure (h : x.Ongoing cs) (hq : x.Relayed blame)
    (hcs : cs.failure? = some err) {o : SendOutcome} (hs : x.stage = .done o) :
    o = .error (if err.kind = .brokenPipe then .ofEngine (blame .truncated)
      else .streamingFailure err) := by
  have hst := h.staged
  unfold Staged at hst
  rw [hs] at hst
  cases hst with
  | @joined fault how hh hw hc =>
    cases fault with
    | none => exact absurd hw (h.not_finished hcs)
    | some e =>
      have hk : err.kind = .brokenPipe := h.delivery_of_failure hq hcs hw.1 ▸ hw.2
      have hbroken : x.bodyEnd = some (.broken .truncated) := by
        cases hb : x.bodyEnd with
        | none =>
          have hrun := (hq.reading hb).1
          rw [hc] at hrun
          cases hrun
        | some b =>
          cases b with
          | clean => exact absurd (h.delivery_of_clean hb) (h.not_finished hcs)
          | broken err' => rw [(h.cut err' hb).1]
      rw [hq.relayed how hc _ hbroken, if_pos hk]
      rfl
  | faulted hh hd hk =>
    rw [h.delivery_of_failure hq hcs hd] at hk ⊢
    rw [if_neg hk]

end Exchange

theorem Dispatch.Upholds.outcome_of_failure {d : Dispatch} {r : ClientRequest} {e : Entity}
    {blame : IoError → EngineError} {err : IoError} (hd : d.Upholds (Exchange.Relayed blame) r e)
    (hcs : e.chunks.failure? = some err) {o : DispatchEnd} (ho : d.ended = some o) :
    o = .completed (.error (if err.kind = .brokenPipe then .ofEngine (blame .truncated)
      else .streamingFailure err)) := by
  obtain ⟨x, outcome, -, hx, hq, hs, rfl⟩ := hd.completed ho
  rw [hx.outcome_of_failure hq hcs hs]

/-- **What becomes of an entity that fails by itself.** Let the engine read its request body until
that ends or breaks, and then fail with what broke it. The outcome is the failure of the entity, as
it is, if that has any kind but that of a broken pipe. One of that kind is not told from an engine
that let go of its body, and the outcome is the failure of the engine for a truncated body. -/
theorem entity_failure_outcome (mode : SendMode) (capacity : Nat) (r : ClientRequest)
    (parts : List Bytes) (err : IoError) (rest : Chunks)
    (hr : r.entity = some (.stream (parts.map .ok ++ .error err :: rest)))
    (blame : IoError → EngineError) (es : List (Nat × DispatchEvent))
    (hes : (Dispatch.start mode capacity r).Obeys (Exchange.FailsWithBody blame) es) :
    let d := ((Dispatch.start mode capacity r).run es).1
    let outcome : SendOutcome := .error (if err.kind = .brokenPipe
      then (if blame .truncated = .cancelled then .interrupted else .sendFailure (blame .truncated))
      else .streamingFailure err)
    (∀ o, d.ended = some o → o = .completed outcome) ∧
      (d.ended = none → d.GoesOn (Exchange.FailsWithBody blame)) ∧
      ∀ es', d.Obeys (Exchange.FailsWithBody blame) es' → d.Brisk es' → d.left ≤ es'.length →
        (d.run es').1.ended = some (.completed outcome) := by
  intro d outcome
  generalize he : Entity.stream (parts.map .ok ++ .error err :: rest) = e at hr
  have hcs : e.chunks.failure? = some err := he ▸ Chunks.failure?_append_error parts err rest
  have hstable : Exchange.Stable (Exchange.FailsWithBody blame) r.engineRequest e
      (Exchange.Relayed blame) := Exchange.stable_relayed r.engineRequest e
  have hlively : Exchange.Lively (Exchange.FailsWithBody blame) e.chunks
      (Exchange.Relayed blame) := Exchange.lively_relayed e.chunks
  have hd : d.Upholds (Exchange.Relayed blame) r e :=
    ((Dispatch.upholds_start mode capacity r e).run hstable hr hes).1
  have hend {d : Dispatch} (hd : d.Upholds (Exchange.Relayed blame) r e) {o : DispatchEnd}
      (ho : d.ended = some o) : o = .completed outcome := by
    rw [hd.outcome_of_failure hcs ho, Exchange.ofEngine_eq]
  refine ⟨fun o ho => hend hd ho, hd.goesOn hstable hlively hr, fun es' hes' hb hl => ?_⟩
  obtain ⟨o, ho⟩ := hd.ended_of_brisk hstable hlively hr hes' hb hl
  rw [ho, hend (hd.run hstable hr hes').1 ho]

/-- A byte, and then a failure of a kind. -/
def ClientRequest.failing (kind : IoErrorKind) : ClientRequest :=
  ⟨.get, ⟨none, [], ['/'], none⟩, .empty, {}, some (.stream [.ok [1], .error ⟨kind, "no more"⟩])⟩

/-- An engine that is not even asked before the entity fails. -/
theorem entity_failure_outcome_invalidData :
    let d := ((Dispatch.start .sync 0 (.failing .invalidData)).run [(0, .advance)]).1
    d.left = 17 ∧ (d.run (List.replicate 17 (1, .advance))).1.ended =
      some (.completed (.error (.streamingFailure ⟨.invalidData, "no more"⟩))) := by
  have hbegun : (Dispatch.start .sync 0 (.failing .invalidData)).Obeys
      (Exchange.FailsWithBody fun e => .transport e.text) [(0, .advance)] := ⟨trivial, trivial⟩
  have hbrisk : ((Dispatch.start .sync 0 (.failing .invalidData)).run [(0, .advance)]).1.Brisk
      (List.replicate 17 (1, .advance)) :=
    ⟨fun _ => by decide, fun _ => by decide, Dispatch.brisk_of_ended rfl _⟩
  exact ⟨rfl, (entity_failure_outcome .sync 0 (.failing .invalidData) [[1]]
    ⟨.invalidData, "no more"⟩ [] rfl (fun e => .transport e.text) [(0, .advance)] hbegun).2.2
      (List.replicate 17 (1, .advance)) (Dispatch.obeys_advances _ _ 17 1) hbrisk (by decide)⟩

/-- An entity that fails as a broken pipe does: the outcome is what the engine says of the truncated
body, and the failure of the entity is lost. -/
theorem entity_brokenPipe_lost :
    let es : List (Nat × DispatchEvent) := [(0, .advance), (1, .call .ask), (2, .advance),
      (3, .advance), (4, .call .pull), (5, .call .pull),
      (6, .call (.finish (.returned (.error (.transport IoError.truncated.text))))), (7, .advance)]
    (Dispatch.start .sync 0 (.failing .brokenPipe)).Obeys
        (Exchange.FailsWithBody fun e => .transport e.text) es ∧
      ((Dispatch.start .sync 0 (.failing .brokenPipe)).run es).1.ended =
        some (.completed (.error
          (.sendFailure (.transport "request body writer dropped before closing")))) :=
  ⟨⟨trivial, fun _ _ => trivial, trivial, trivial, fun _ _ => trivial, fun _ _ => trivial,
    Dispatch.permits_of_work rfl ⟨fun h => (nomatch h), fun _ h => by cases h; rfl⟩,
    trivial, trivial⟩, rfl⟩

end EndpointClient
