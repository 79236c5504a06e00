import EndpointClient.Proofs.Connector.Faithful

/-!
# EndpointClient.Proofs.Connector.Ongoing

An exchange that the caller has not given up, with an engine of any kind.

* `Exchange.accepted` are the bytes of the entity that got into the pipe.
* `Exchange.Ongoing cs x`: with the books of the exchange (`Accounted`, `Staged`) go two facts about
  a writing that failed. One that failed of an entity that does not fail was cut off before its last
  byte; and a body that broke for the engine is that of an entity that failed by itself.
* `Ongoing.writeMove`, `Ongoing.callMove`: no move breaks it, whatever the engine does.
* `Ongoing.failure_of_failed`: a writing fails of nothing but the entity, unless the engine lets go of
  a body that it has not seen the end of.
* `Ongoing.joined`: the outcome of an entity that does not fail is made of the end of the call, and
  of whether the writing was cut off.
-/

namespace EndpointClient
namespace Exchange

open Http (Chunks)

variable {cs : Chunks} {x x' : Exchange} {c : CallEvent}

def accepted (x : Exchange) : Bytes := x.received ++ x.pipe.buffer

/-- The writing of an entity that does not fail fails of a pipe whose reader is gone. -/
theorem Accounted.broken_of_failed (h : x.Accounted cs) (hcs : cs.failure? = none) {e : IoError}
    (hd : x.delivery = .failed e) : e = .broken ∧ x.pipe.readerGone = true := by
  have hu := hd ▸ h.upTo
  rcases hu.2 with ⟨he, -⟩ | hfault
  · rw [hcs] at he
    cases he
  · exact hfault

/-- What is true of an exchange that the caller has not given up. -/
structure Ongoing (cs : Chunks) (x : Exchange) : Prop where
  account : x.Accounted cs
  staged : x.Staged
  kept : x.stage ≠ .abandoned
  alive : x.call ≠ .dropped
  short : ∀ e, x.delivery = .failed e → cs.failure? = none → x.accepted ≠ cs.bytes
  cut : ∀ err, x.bodyEnd = some (.broken err) →
    err = .truncated ∧ ∃ e, cs.failure? = some e ∧ x.delivery = .failed e

theorem ongoing_start (capacity : Nat) (q : EngineRequest) (e : Entity) :
    (start capacity q e).Ongoing e.chunks where
  account := accounted_start capacity q e
  staged := rfl
  kept h := nomatch h
  alive h := nomatch h
  short err hd hcs := by
    have hgone := ((accounted_start capacity q e).broken_of_failed hcs hd).2
    cases hgone
  cut err h := nomatch h

/-- Who writes has not failed yet, and once a writing has failed it stays so. -/
theorem WriteMove.delivery_failed (hm : x.WriteMove x') {e : IoError}
    (hd : x.delivery = .failed e) : x'.delivery = .failed e ∧ x'.accepted = x.accepted := by
  cases hm with
  | put hs hd' hp hr => exact nomatch hd.symm.trans hd'
  | refused hs hd' hp => exact nomatch hd.symm.trans hd'
  | flushed hs hd' => exact nomatch hd.symm.trans hd'
  | shut hs hd' => exact nomatch hd.symm.trans hd'
  | written hs hd' => exact ⟨hd, rfl⟩
  | severed hs hd' hk => exact ⟨hd, rfl⟩
  | faulted hs hd' hk => exact ⟨hd, rfl⟩
  | joined hs hc => exact ⟨hd, rfl⟩

namespace Ongoing

theorem delivery_of_clean (h : x.Ongoing cs) (hc : x.bodyEnd = some .clean) :
    x.delivery = .finished :=
  h.account.shut_iff.1 (h.account.clean hc).1

/-- While there is something to write, the engine has not seen the end of the body. -/
theorem bodyEnd_of_writing (h : x.Ongoing cs) {part : Bytes} {rest : Chunks}
    (hd : x.delivery = .writing part rest) : x.bodyEnd = none := by
  cases hb : x.bodyEnd with
  | none => rfl
  | some b =>
    cases b with
    | clean =>
      rw [h.delivery_of_clean hb] at hd
      cases hd
    | broken err =>
      obtain ⟨-, e, -, hf⟩ := h.cut err hb
      rw [hf] at hd
      cases hd

/-- A pipe that was left open by a writer that is gone is that of an entity that failed, as long as
the reader is there. -/
theorem failed_of_open (h : x.Ongoing cs) (hg : x.pipe.readerGone = false)
    (hs : x.pipe.shut = false) (hw : x.pipe.writerGone = true) :
    ∃ e, cs.failure? = some e ∧ x.delivery = .failed e := by
  have hfailed {e : IoError} (hd : x.delivery = .failed e) :
      ∃ e, cs.failure? = some e ∧ x.delivery = .failed e := by
    have hu := hd ▸ h.account.upTo
    rcases hu.2 with ⟨he, -⟩ | ⟨-, hr⟩
    · exact ⟨e, he, hd⟩
    · rw [hg] at hr
      cases hr
  have hwrote {fault : Option IoError} (hd : Wrote x.delivery fault) :
      ∃ e, cs.failure? = some e ∧ x.delivery = .failed e := by
    cases fault with
    | none =>
      rw [h.account.shut_iff.2 hd] at hs
      cases hs
    | some e => exact hfailed hd.1
  have hst := h.staged
  unfold Staged at hst
  cases hstage : x.stage with
  | writing =>
    rw [h.account.open_iff.2 hstage] at hw
    cases hw
  | joining fault =>
    rw [hstage] at hst
    exact hwrote hst.2
  | done o =>
    rw [hstage] at hst
    cases hst with
    | joined hh hd hc => exact hwrote hd
    | faulted hh hd hk => exact hfailed hd
  | abandoned => exact absurd hstage h.kept

/-- With a reader that stays until it has seen the end of the body, the writing fails of nothing but
the entity. -/
theorem failure_of_failed (h : x.Ongoing cs) (hg : x.bodyEnd = none → x.pipe.readerGone = false)
    {e : IoError} (hd : x.delivery = .failed e) : cs.failure? = some e := by
  cases hb : x.bodyEnd with
  | none =>
    have hu := hd ▸ h.account.upTo
    rcases hu.2 with ⟨he, -⟩ | ⟨-, hr⟩
    · exact he
    · exact nomatch (hg hb).symm.trans hr
  | some b =>
    cases b with
    | clean => exact absurd hb (h.account.not_clean (hd ▸ fun e => nomatch e))
    | broken err =>
      obtain ⟨-, e', he', hd'⟩ := h.cut err hb
      cases hd.symm.trans hd'
      exact he'

theorem writeMove (h : x.Ongoing cs) (hm : x.WriteMove x') : x'.Ongoing cs where
  account := h.account.writeMove hm
  staged := h.staged.writeMove hm
  kept := hm.stage_ne_abandoned
  alive := by rw [hm.call]; exact h.alive
  short e hd hcs := by
    cases hm with
    | @put part rest hs hdw hp hr =>
      -- a part that was taken can be followed by a failure of the entity alone
      have hgone : x.pipe.readerGone = true :=
        ((h.account.writeMove (.put hs hdw hp hr)).broken_of_failed hcs hd).2
      simp [Pipe.refuses, hgone] at hp
    | @refused part rest hs hdw hp =>
      have hu := hdw ▸ h.account.upTo
      intro hall
      have hbytes : x.received ++ x.pipe.buffer ++ (part ++ Chunks.bytes rest) =
          x.received ++ x.pipe.buffer := hu.2.1.trans (Eq.symm hall)
      have hnil := List.append_eq_nil_iff.1 (List.append_right_eq_self.1 hbytes)
      exact hu.1 hnil.1
    | flushed hs hdw => cases hd
    | shut hs hdw => cases hd
    | written hs hdw => exact h.short e hd hcs
    | severed hs hdw hk => exact h.short e hd hcs
    | faulted hs hdw hk => exact h.short e hd hcs
    | joined hs hc => exact h.short e hd hcs
  cut err hb := by
    rw [hm.bodyEnd] at hb
    obtain ⟨herr, e, he, hd⟩ := h.cut err hb
    exact ⟨herr, e, he, (hm.delivery_failed hd).1⟩

theorem callMove (h : x.Ongoing cs) (hm : x.CallMove c x') : x'.Ongoing cs where
  account := h.account.callMove hm
  staged := h.staged.callMove hm
  kept := hm.stage ▸ h.kept
  alive := by
    cases hm with
    | finished hr ha => exact fun e => nomatch e
    | reaped hr hh => exact absurd hh (h.staged.not_aborted h.kept)
    | asked ha => exact h.alive
    | chunk hb he hne => exact h.alive
    | ended hb he hne hs => exact h.alive
    | cut hb he hne hs hw => exact h.alive
    | handedOn hr hb hh => exact h.alive
    | dropped hb => exact h.alive
  short e hd hcs := by
    rw [hm.delivery] at hd
    have hsame : x'.accepted = x.accepted := hm.sent
    rw [hsame]
    exact h.short e hd hcs
  cut err hb := by
    rw [hm.delivery]
    cases hm with
    | ended hb' he hne hs => cases hb
    | cut hb' he hne hs hw =>
      cases hb
      refine ⟨rfl, h.failed_of_open ?_ hs hw⟩
      simp only [bodyHeld, Bool.and_eq_true, Bool.not_eq_true'] at hb'
      exact hb'.2
    | asked ha => exact h.cut err hb
    | chunk hb' he hne => exact h.cut err hb
    | handedOn hr hb' hh => exact h.cut err hb
    | dropped hb' => exact h.cut err hb
    | finished hr ha => exact h.cut err hb
    | reaped hr hh => exact h.cut err hb

/-- The outcome of an entity that does not fail is that of the call, or of a pipe that broke if the
writing was cut off. -/
theorem joined (h : x.Ongoing cs) (hcs : cs.failure? = none) {o : SendOutcome}
    (hs : x.stage = .done o) :
    ∃ how, x.call = .ended how ∧
      o = if x.accepted = cs.bytes then how.outcome else how.outcomeOfBreak .broken := by
  obtain ⟨fault, how, hw, hc, ho⟩ := joined_of_done h.account h.staged hcs hs
  refine ⟨how, hc, ?_⟩
  cases fault with
  | none =>
    have hd : x.delivery = .finished := hw
    have hall : x.accepted = cs.bytes := (hd ▸ h.account.upTo).1
    rw [ho, if_pos hall]
    rfl
  | some e =>
    have he := (h.account.broken_of_failed hcs hw.1).1
    rw [ho, if_neg (h.short e hw.1 hcs), he]
    rfl

end Ongoing
end Exchange
end EndpointClient
