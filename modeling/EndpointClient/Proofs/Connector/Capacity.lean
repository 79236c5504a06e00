import EndpointClient.Proofs.Connector.Deadlock
import EndpointClient.Proofs.Http.Header

/-!
# EndpointClient.Proofs.Connector.Capacity

What the capacity of the pipe has to do with the outcome of a request whose entity does not fail.

* `CallEnd.outcomeFor how whole` is what becomes of a call that ended as `how`, where `whole` says
  whether the whole entity got into the pipe. `outcomeFor_eq_iff`: it matters unless the engine
  failed.
* `Ongoing.outcome_eq`: that is the outcome, whatever the capacity. `Ongoing.readerGone_of_short`: an
  entity was cut off only where the engine let go of its request body.
* `outcome_eq_across_capacities`: two requests that differ in the capacity, with calls that end in
  the same way, have the same outcome if and only if the engine failed or both entities got into the
  pipe as a whole or neither did. `capacity_cuts_response`: so they may differ.
-/

namespace EndpointClient

open Http (Chunks)

namespace CallEnd

/-- What becomes of a request for the end of its call, where the whole entity got into the pipe or
was cut off. -/
def outcomeFor (whole : Bool) : CallEnd → SendOutcome
  | .returned (.ok resp) => if whole then .ok resp else .error (.streamingFailure .broken)
  | .returned (.error err) => .error (if err = .cancelled then .interrupted else .sendFailure err)
  | .panicked text => .error (if whole then .ofPanic text else .streamingFailure .broken)

theorem outcomeFor_whole (how : CallEnd) : how.outcomeFor true = how.outcome := by
  cases how with
  | panicked text => rfl
  | returned result =>
    cases result with
    | ok resp => exact congrArg Except.ok resp.readdressed_eq.symm
    | error err => exact congrArg Except.error (Exchange.ofEngine_eq err).symm

theorem outcomeFor_cut (how : CallEnd) : how.outcomeFor false = how.outcomeOfBreak .broken := by
  cases how with
  | panicked text => rfl
  | returned result =>
    cases result with
    | ok resp => rfl
    | error err => exact congrArg Except.error (Exchange.ofEngine_eq err).symm

theorem outcomeFor_eq_iff (how : CallEnd) (whole whole' : Bool) :
    how.outcomeFor whole = how.outcomeFor whole' ↔
      (∃ err, how = .returned (.error err)) ∨ whole = whole' := by
  cases how with
  | panicked text =>
    cases whole <;> cases whole' <;> simp [outcomeFor, ConnectorError.ofPanic]
  | returned result =>
    cases result with
    | ok resp => cases whole <;> cases whole' <;> simp [outcomeFor]
    | error err => simp [outcomeFor]

end CallEnd

namespace Exchange

variable {cs : Chunks} {x : Exchange}

/-- The rule of an engine that does as it likes. -/
def AnyEngine : EngineRule := fun _ _ => True

theorem stable_true (q : EngineRequest) (e : Entity) : Stable AnyEngine q e fun _ => True :=
  ⟨fun _ => trivial, fun _ _ _ => trivial, fun _ _ _ _ => trivial⟩

theorem Ongoing.outcome_eq (h : x.Ongoing cs) (hcs : cs.failure? = none) {o : SendOutcome}
    (hs : x.stage = .done o) :
    ∃ how, x.call = .ended how ∧ o = how.outcomeFor (x.accepted = cs.bytes) := by
  obtain ⟨how, hc, ho⟩ := h.joined hcs hs
  refine ⟨how, hc, ?_⟩
  by_cases hall : x.accepted = cs.bytes
  · rw [ho, if_pos hall, decide_eq_true hall, how.outcomeFor_whole]
  · rw [ho, if_neg hall, decide_eq_false hall, how.outcomeFor_cut]

/-- The writing was cut off only where the engine let go of its request body. -/
theorem Ongoing.readerGone_of_short (h : x.Ongoing cs) (hcs : cs.failure? = none)
    {o : SendOutcome} (hs : x.stage = .done o) (hne : x.accepted ≠ cs.bytes) :
    x.pipe.readerGone = true := by
  obtain ⟨fault, how, hw, -, -⟩ := joined_of_done h.account h.staged hcs hs
  cases fault with
  | none =>
    have hd : x.delivery = .finished := hw
    exact absurd (hd ▸ h.account.upTo).1 hne
  | some e => exact (h.account.broken_of_failed hcs hw.1).2

end Exchange

namespace Dispatch

def accepted (d : Dispatch) : Bytes :=
  match d.work with
  | .streamed x => x.accepted
  | _ => []

/-- How the call of the engine ended, where it is a task of its own. -/
def callEnd? (d : Dispatch) : Option CallEnd :=
  match d.work with
  | .streamed x =>
    match x.call with
    | .ended how => some how
    | _ => none
  | _ => none

/-- Whether the engine let go of its request body. -/
def bodyGone (d : Dispatch) : Bool :=
  match d.work with
  | .streamed x => x.pipe.readerGone
  | _ => false

variable {Q : Exchange → Prop} {r : ClientRequest} {e : Entity} {d : Dispatch} {o : DispatchEnd}

namespace Upholds

/-- What was read got into the pipe before, and that is the beginning of the entity. -/
theorem accepted_prefix (h : d.Upholds Q r e) :
    d.received <+: d.accepted ∧ d.accepted <+: e.chunks.bytes := by
  cases h with
  | unbegun hw hr he => simp [Dispatch.received, Dispatch.accepted, hw]
  | @streamed x hw hx hq he =>
    simp only [Dispatch.received, Dispatch.accepted, hw]
    exact ⟨List.prefix_append _ _, hx.account.upTo.isPrefix⟩

theorem outcome_eq (h : d.Upholds Q r e) (hcs : e.chunks.failure? = none)
    (ho : d.ended = some o) :
    (∃ how, d.callEnd? = some how ∧
      o = .completed (how.outcomeFor (d.accepted = e.chunks.bytes))) ∧
      (d.accepted ≠ e.chunks.bytes → d.bodyGone = true) := by
  obtain ⟨x, outcome, hw, hx, -, hs, rfl⟩ := h.completed ho
  obtain ⟨how, hc, hout⟩ := hx.outcome_eq hcs hs
  simp only [callEnd?, accepted, bodyGone, hw, hc]
  exact ⟨⟨how, rfl, congrArg DispatchEnd.completed hout⟩, hx.readerGone_of_short hcs hs⟩

end Upholds
end Dispatch

/-- **The capacity of the pipe decides on one thing alone: whether the whole entity gets into it
before the engine lets go of its request body.** Let the entity not fail by itself, and the engine
do as it likes. Two requests that differ in the capacity of their pipes and in the turns of the two
sides, with calls that ended in the same way, have the same outcome if and only if the engine failed
or the whole entity got into the pipe in both or in neither.

The outcome is the response then, the error of the engine, or the breakdown of its task; where the
entity was cut off it is a broken pipe, unless the engine failed. With an engine that lets go of its
body, if only by its end, there always comes an outcome. -/
theorem outcome_eq_across_capacities (mode : SendMode) (r : ClientRequest) (e : Entity)
    (hr : r.entity = some e) (he : e.chunks.failure? = none) (capacity₁ capacity₂ : Nat)
    (es₁ es₂ : List (Nat × DispatchEvent))
    (hes₁ : (Dispatch.start mode capacity₁ r).Obeys Exchange.AnyEngine es₁)
    (hes₂ : (Dispatch.start mode capacity₂ r).Obeys Exchange.AnyEngine es₂) :
    let d₁ := ((Dispatch.start mode capacity₁ r).run es₁).1
    let d₂ := ((Dispatch.start mode capacity₂ r).run es₂).1
    let bytes := e.chunks.bytes
    (∀ how, d₁.callEnd? = some how → d₂.callEnd? = some how → ∀ o₁ o₂, d₁.ended = some o₁ →
      d₂.ended = some o₂ → (o₁ = o₂ ↔ (∃ err, how = .returned (.error err)) ∨
        (d₁.accepted = bytes ↔ d₂.accepted = bytes))) ∧
    (∀ o, d₁.ended = some o →
      (∃ how, d₁.callEnd? = some how ∧ o = .completed (how.outcomeFor (d₁.accepted = bytes))) ∧
        (d₁.accepted ≠ bytes → d₁.bodyGone = true)) ∧
    (d₁.received <+: d₁.accepted ∧ d₁.accepted <+: bytes) ∧
    ((Dispatch.start mode capacity₁ r).Obeys Exchange.ReleasesBody es₁ →
      (d₁.ended = none → d₁.GoesOn Exchange.ReleasesBody) ∧
        ∀ es', d₁.Obeys Exchange.ReleasesBody es' → d₁.Brisk es' → d₁.left ≤ es'.length →
          ∃ outcome, (d₁.run es').1.ended = some (.completed outcome)) := by
  intro d₁ d₂ bytes
  have hany := Exchange.stable_true r.engineRequest e
  have hd₁ : d₁.Upholds (fun _ => True) r e :=
    ((Dispatch.upholds_start mode capacity₁ r e).run hany hr hes₁).1
  have hd₂ : d₂.Upholds (fun _ => True) r e :=
    ((Dispatch.upholds_start mode capacity₂ r e).run hany hr hes₂).1
  refine ⟨fun how hc₁ hc₂ o₁ o₂ ho₁ ho₂ => ?_, fun o ho => hd₁.outcome_eq he ho,
    hd₁.accepted_prefix, fun hes => ?_⟩
  · obtain ⟨⟨how₁, hc₁', rfl⟩, -⟩ := hd₁.outcome_eq he ho₁
    obtain ⟨⟨how₂, hc₂', rfl⟩, -⟩ := hd₂.outcome_eq he ho₂
    cases hc₁.symm.trans hc₁'
    cases hc₂.symm.trans hc₂'
    rw [DispatchEnd.completed.injEq, CallEnd.outcomeFor_eq_iff, decide_eq_decide]
  · have hstable := Exchange.stable_released r.engineRequest e
    have hlively := Exchange.lively_released e.chunks
    have hd : d₁.Upholds Exchange.Released r e :=
      ((Dispatch.upholds_start mode capacity₁ r e).run hstable hr hes).1
    exact ⟨hd.goesOn hstable hlively hr, fun es' hes' hb hl =>
      hd.outcome_of_brisk hstable hlively hr hes' hb hl⟩

namespace Dispatch

def twoBytes : ClientRequest := ⟨.get, ⟨none, [], ['/'], none⟩, .empty, {}, some (.whole [1, 2])⟩

/-- The writing side fills the pipe as far as it goes, the engine ends the call without reading
anything, and the writing side goes on. -/
def unread (how : CallEnd) : List (Nat × DispatchEvent) :=
  [(0, .advance), (1, .advance), (2, .call .ask), (3, .call (.finish how))] ++
    List.replicate 4 (4, .advance)

end Dispatch

/-- An engine that is cancelled before it has read anything. One byte of two got into the pipe of
one byte, and both into the other. -/
theorem outcome_eq_across_capacities_cancelled :
    let how : CallEnd := .returned (.error .cancelled)
    let d₁ := ((Dispatch.start .sync 1 Dispatch.twoBytes).run (Dispatch.unread how)).1
    let d₂ := ((Dispatch.start .sync 2 Dispatch.twoBytes).run (Dispatch.unread how)).1
    d₁.accepted = [1] ∧ d₂.accepted = [1, 2] ∧ d₁.ended = d₂.ended := by
  have hany (capacity : Nat) : (Dispatch.start .sync capacity Dispatch.twoBytes).Obeys
      Exchange.AnyEngine (Dispatch.unread (.returned (.error .cancelled))) :=
    ⟨trivial, trivial, fun _ _ => trivial, fun _ _ => trivial, Dispatch.obeys_advances _ _ 4 4⟩
  have hsame := (outcome_eq_across_capacities .sync Dispatch.twoBytes (.whole [1, 2]) rfl rfl 1 2
    (Dispatch.unread (.returned (.error .cancelled)))
    (Dispatch.unread (.returned (.error .cancelled))) (hany 1) (hany 2)).1
    (.returned (.error .cancelled)) rfl rfl _ _ rfl rfl
  exact ⟨rfl, rfl, congrArg some (hsame.2 (.inl ⟨.cancelled, rfl⟩))⟩

/-- A response that the engine gave without reading anything is handed on from a pipe that holds the
entity, and lost with one that does not. So it is with the breakdown of its task. -/
theorem capacity_cuts_response :
    let answered : CallEnd := .returned (.ok ⟨.ok, .empty, []⟩)
    let ended (capacity : Nat) (how : CallEnd) :=
      ((Dispatch.start .sync capacity Dispatch.twoBytes).run (Dispatch.unread how)).1.ended
    (Dispatch.start .sync 1 Dispatch.twoBytes).Obeys Exchange.ReleasesBody
        (Dispatch.unread answered) ∧
      (Dispatch.start .sync 2 Dispatch.twoBytes).Obeys Exchange.ReleasesBody
        (Dispatch.unread answered) ∧
      ended 1 answered = some (.completed (.error (.streamingFailure .broken))) ∧
      ended 2 answered = some (.completed (.ok ⟨.ok, .empty, []⟩)) ∧
      ended 1 (.panicked "oops") = some (.completed (.error (.streamingFailure .broken))) ∧
      ended 2 (.panicked "oops") = some (.completed (.error (.ofPanic "oops"))) :=
  ⟨⟨trivial, trivial, fun _ _ => trivial, Dispatch.permits_of_work rfl (.inl rfl),
      Dispatch.obeys_advances _ _ 4 4⟩,
    ⟨trivial, trivial, fun _ _ => trivial, Dispatch.permits_of_work rfl (.inl rfl),
      Dispatch.obeys_advances _ _ 4 4⟩, rfl, rfl, rfl, rfl⟩

end EndpointClient
