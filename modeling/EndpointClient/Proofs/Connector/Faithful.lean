import EndpointClient.Proofs.Connector.Progress
import EndpointClient.Proofs.Connector.Schedule
import EndpointClient.Proofs.Http.Header

/-!
# EndpointClient.Proofs.Connector.Faithful

An exchange whose entity does not fail, with an engine that reads its request body to the end and
then answers.

* `Exchange.Faithful answer q cs x`: the engine was asked `q` once at most, it has not let go of a
  body that it still reads, and if it has answered, then for the bytes that it got. With it goes
  what holds of every exchange (`Accounted`, `Staged`).
* `Faithful.writeMove`, `Faithful.callMove`: no move breaks it, as long as the engine heeds its rule
  (`Heeds`).
* `Faithful.enabled`: as long as there is no outcome, it is not so that both sides have to wait.
* `Faithful.done`: the outcome is the answer of the engine for all bytes of the entity.
-/

namespace EndpointClient
namespace Exchange

open Http (Chunks)

variable {answer : EngineAnswer} {q : EngineRequest} {cs : Chunks} {x x' : Exchange}
  {c : CallEvent}

/-- What is true of an exchange whose engine reads its body to the end and then answers. -/
structure Faithful (answer : EngineAnswer) (q : EngineRequest) (cs : Chunks) (x : Exchange) :
    Prop where
  account : x.Accounted cs
  staged : x.Staged
  kept : x.stage ≠ .abandoned
  request : x.request = q
  asked : x.asked = [] ∨ x.asked = [q]
  whole : x.bodyEnd = none ∨ x.bodyEnd = some .clean
  reading : x.bodyEnd = none → x.call = .running ∧ x.pipe.readerGone = false
  answered : x.call = .running ∨
    x.call = .ended (.returned (answer q x.received)) ∧ x.asked = [q]

/-- The engine neither answers nor lets go of its body before it has seen the end of the body, and
it answers what is to be answered for what it got. -/
def Heeds (answer : EngineAnswer) (x : Exchange) : CallEvent → Prop
  | .dropBody => x.bodyEnd ≠ none
  | .finish how => x.bodyEnd ≠ none ∧
      ∃ q rest, x.asked = q :: rest ∧ how = .returned (answer q x.received)
  | _ => True

theorem heeds_of_call? {u : Turn} (h : x.call? answer u = some c) : x.Heeds answer c := by
  cases u with
  | caller => cases h
  | engine =>
    simp only [call?, engineMove] at h
    split at h
    · split at h
      · cases h
        trivial
      · cases h
        trivial
      · rename_i ha hb
        cases h
        exact ⟨hb ▸ Option.some_ne_none _, _, _, ha, rfl⟩
    · cases h
  | handOn =>
    cases h
    trivial
  | dropBody =>
    simp only [call?] at h
    split at h
    · rename_i hb
      cases h
      exact Option.isSome_iff_ne_none.1 hb
    · cases h
  | dropHandle => cases h

theorem faithful_start (capacity : Nat) (q : EngineRequest) (e : Entity) :
    (start capacity q e).Faithful answer q e.chunks where
  account := accounted_start capacity q e
  staged := rfl
  kept h := nomatch h
  request := rfl
  asked := .inl rfl
  whole := .inl rfl
  reading _ := ⟨rfl, rfl⟩
  answered := .inl rfl

/-- Nobody tells a call to stop but a caller who gives up. -/
theorem Staged.not_aborted (h : x.Staged) (hk : x.stage ≠ .abandoned) : x.hold ≠ .aborted := by
  unfold Staged at h
  cases hs : x.stage with
  | writing =>
    rw [hs] at h
    exact fun e => nomatch h.symm.trans e
  | joining fault =>
    rw [hs] at h
    exact fun e => nomatch h.1.symm.trans e
  | done o =>
    rw [hs] at h
    cases h with
    | joined hh hw hc => exact fun e => nomatch hh.symm.trans e
    | faulted hh hd hk => exact fun e => nomatch hh.symm.trans e
  | abandoned => exact absurd hs hk

namespace Faithful

theorem finished_of_readerGone (h : x.Faithful answer q cs) (hr : x.pipe.readerGone = true) :
    x.delivery = .finished := by
  rcases h.whole with hb | hb
  · rw [(h.reading hb).2] at hr
    cases hr
  · exact h.account.shut_iff.1 (h.account.clean hb).1

theorem not_failed (h : x.Faithful answer q cs) (hcs : cs.failure? = none) (e : IoError) :
    x.delivery ≠ .failed e := by
  intro hd
  have hu := hd ▸ h.account.upTo
  rcases hu.2 with ⟨he, -⟩ | ⟨-, hr⟩
  · rw [hcs] at he
    cases he
  · -- a fault of the pipe takes a reader that is gone, and such a reader has seen the end
    rw [h.finished_of_readerGone hr] at hd
    cases hd

theorem wrote (h : x.Faithful answer q cs) (hcs : cs.failure? = none) {fault : Option IoError}
    (hw : Wrote x.delivery fault) : fault = none := by
  cases fault with
  | none => rfl
  | some e => exact absurd hw.1 (h.not_failed hcs e)

theorem finished_of_writerGone (h : x.Faithful answer q cs) (hcs : cs.failure? = none)
    (hw : x.pipe.writerGone = true) : x.delivery = .finished := by
  have hstaged := h.staged
  have hfinished {fault : Option IoError} (hw : Wrote x.delivery fault) :
      x.delivery = .finished := by
    rw [h.wrote hcs hw] at hw
    exact hw
  unfold Staged at hstaged
  cases hs : x.stage with
  | writing =>
    rw [h.account.open_iff.2 hs] at hw
    cases hw
  | joining fault =>
    rw [hs] at hstaged
    exact hfinished hstaged.2
  | done o =>
    obtain ⟨fault, how, hw, -, -⟩ := joined_of_done h.account h.staged hcs hs
    exact hfinished hw
  | abandoned => exact absurd hs h.kept

theorem writeMove (h : x.Faithful answer q cs) (hm : x.WriteMove x') :
    x'.Faithful answer q cs where
  account := h.account.writeMove hm
  staged := h.staged.writeMove hm
  kept := hm.stage_ne_abandoned
  request := by rw [hm.request, h.request]
  asked := by rw [hm.asked]; exact h.asked
  whole := by rw [hm.bodyEnd]; exact h.whole
  reading := by rw [hm.bodyEnd, hm.call, hm.readerGone]; exact h.reading
  answered := by rw [hm.call, hm.received, hm.asked]; exact h.answered

theorem running (h : x.Faithful answer q cs) (hb : x.bodyEnd = none) : x.call = .running :=
  (h.reading hb).1

/-- Nothing that the engine does breaks it, as long as the engine heeds its rule. -/
theorem callMove (h : x.Faithful answer q cs) (hcs : cs.failure? = none) (hm : x.CallMove c x')
    (hc : x.Heeds answer c) : x'.Faithful answer q cs := by
  have haccount := h.account.callMove hm
  have hstaged := h.staged.callMove hm
  have hkept : x'.stage ≠ .abandoned := hm.stage ▸ h.kept
  cases hm with
  | asked ha =>
    have hrun : x.call = .running := by
      cases hx : x.call with
      | running => rfl
      | ended how => simp [awaitsAsk, hx, CallState.isRunning] at ha
      | dropped => simp [awaitsAsk, hx, CallState.isRunning] at ha
    have hnone : x.asked = [] := by
      simp only [awaitsAsk, Bool.and_eq_true, List.isEmpty_iff] at ha
      exact ha.1.2
    have hasked : x.asked ++ [x.request] = [q] := by rw [hnone, h.request, List.nil_append]
    exact ⟨haccount, hstaged, hkept, h.request, .inr hasked, h.whole, h.reading, .inl hrun⟩
  | chunk hb he hne =>
    exact ⟨haccount, hstaged, hkept, h.request, h.asked, h.whole, h.reading, .inl (h.running he)⟩
  | ended hb he hne hs =>
    refine ⟨haccount, hstaged, hkept, h.request, h.asked, .inr rfl, ?_, .inl (h.running he)⟩
    intro hn
    cases hn
  | cut hb he hne hs hw =>
    -- a writer that is gone has written all, so that its pipe is shut
    rw [h.account.shut_iff.2 (h.finished_of_writerGone hcs hw)] at hs
    cases hs
  | handedOn hr hb hh =>
    exact ⟨haccount, hstaged, hkept, h.request, h.asked, h.whole, h.reading, h.answered⟩
  | dropped hb =>
    exact ⟨haccount, hstaged, hkept, h.request, h.asked, h.whole, fun e => absurd e hc, h.answered⟩
  | @finished how hr ha =>
    obtain ⟨hend, q', rest, hq', rfl⟩ := hc
    have hq : x.asked = [q] := h.asked.resolve_left ha
    rw [hq] at hq'
    cases hq'
    exact ⟨haccount, hstaged, hkept, h.request, h.asked, h.whole, fun e => absurd e hend,
      .inr ⟨rfl, hq⟩⟩
  | reaped hr hh => exact absurd hh (h.staged.not_aborted h.kept)

theorem engine_enabled (h : x.Faithful answer q cs) (hr : x.call = .running)
    (hp : x.bodyEnd = none → x.pipe.buffer ≠ [] ∨ x.pipe.shut = true) :
    ∃ c, x.engineMove answer = some c ∧ x.CallMove c (x.callStep c) := by
  have hrun : x.call.isRunning = true := by rw [hr]; rfl
  cases ha : x.asked with
  | nil =>
    have hawaits : x.awaitsAsk = true := by
      simp [awaitsAsk, hrun, ha, h.staged.not_aborted h.kept]
    refine ⟨.ask, by simp [engineMove, hrun, ha], ?_⟩
    simpa [callStep, ask, hawaits] using CallMove.asked hawaits
  | cons q' rest =>
    cases he : x.bodyEnd with
    | none =>
      have hheld : x.bodyHeld = true := by simp [bodyHeld, ha, (h.reading he).2]
      refine ⟨.pull, by simp [engineMove, hrun, ha, he], ?_⟩
      by_cases hne : x.pipe.buffer = []
      · exact pull_ended hheld he hne ((hp he).resolve_left (absurd hne))
      · exact pull_chunk hheld he hne
    | some b =>
      refine ⟨.finish (.returned (answer q' x.received)), by simp [engineMove, hrun, ha, he], ?_⟩
      have hasked : x.asked ≠ [] := ha ▸ List.cons_ne_nil _ _
      simpa [callStep, finish, hrun, hasked] using
        @CallMove.finished x (.returned (answer q' x.received)) hrun hasked

/-- As long as there is no outcome, the writing side can go on or the engine can. -/
theorem enabled (h : x.Faithful answer q cs) (hcs : cs.failure? = none)
    (ho : ∀ o, x.stage ≠ .done o) :
    (∃ x', x.write = some x') ∨
      ∃ c, x.engineMove answer = some c ∧ x.CallMove c (x.callStep c) := by
  cases hw : x.write with
  | some x' => exact .inl ⟨x', rfl⟩
  | none =>
    refine .inr ?_
    cases write_wait h.account.part_ne_nil hw with
    | @room part rest hs hd hp hr =>
      have hnot : x.delivery ≠ .finished := hd ▸ fun e => nomatch e
      have hnone : x.bodyEnd = none := h.whole.resolve_right (h.account.not_clean hnot)
      refine h.engine_enabled (h.running hnone) fun _ => .inl fun hb => ?_
      have hpos := x.pipe.capacity_pos
      rw [Pipe.room, hb, List.length_nil] at hr
      omega
    | call hs hc =>
      have hr : x.call = .running := h.answered.resolve_right fun hans => hc _ hans.1
      refine h.engine_enabled hr fun _ => .inr ?_
      have hgone : x.pipe.writerGone = true := by
        rw [← Bool.not_eq_false, h.account.open_iff, hs]
        exact fun e => nomatch e
      exact h.account.shut_iff.2 (h.finished_of_writerGone hcs hgone)
    | done hs => exact absurd hs (ho _)
    | abandoned hs => exact absurd hs h.kept

/-- The outcome is the answer of the engine for all bytes of the entity. -/
theorem done (h : x.Faithful answer q cs) (hcs : cs.failure? = none) {o : SendOutcome}
    (hs : x.stage = .done o) :
    x.asked = [q] ∧ x.received = cs.bytes ∧
      o = (answer q cs.bytes).mapError ConnectorError.ofEngine := by
  obtain ⟨fault, how, hw, hc, ho⟩ := joined_of_done h.account h.staged hcs hs
  rcases h.answered with hr | ⟨hans, hasked⟩
  · rw [hr] at hc
    cases hc
  · have hclean : x.bodyEnd = some .clean := by
      refine h.whole.resolve_left fun hb => ?_
      rw [h.running hb] at hc
      cases hc
    have hreceived := (h.account.of_clean hclean).2
    rw [hans, hreceived] at hc
    cases hc
    refine ⟨hasked, hreceived, ?_⟩
    rw [ho, h.wrote hcs hw]
    cases answer q cs.bytes with
    | ok resp => exact congrArg Except.ok resp.readdressed_eq
    | error err => rfl

end Faithful
end Exchange
end EndpointClient
