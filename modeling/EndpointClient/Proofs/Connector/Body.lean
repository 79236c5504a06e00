import EndpointClient.Pipe.Stream
import EndpointClient.Proofs.Connector.Move
import EndpointClient.Proofs.Delivery

/-!
# EndpointClient.Proofs.Connector.Body

What the engine gets of a request body, in every run of an exchange.

* `Exchange.Accounted cs x`: every byte that the entity has given away was read or is buffered, the
  pipe is shut if and only if all of the entity is written, and a body that ended cleanly was read
  to the last byte. `accounted_run`: so it is in every run, wherever the engine stops reading and
  wherever the caller gives up.
* `pull_eq_next`: the engine reads it as a stream of chunks.
* `truncated_never_complete`: what the engine has read is always the beginning of the entity, and a
  clean end means that it is all of an entity that did not fail.
-/

namespace EndpointClient
namespace Exchange

open Http (Chunks)

variable {cs : Chunks} {x x' : Exchange} {c : CallEvent}

/-- The request body of an engine is the reader of the pipe as a stream, which is over when the engine
has seen the end of the body. -/
theorem pull_eq_next (h : x.bodyHeld = true) :
    let next := PipeStream.next ⟨x.pipe, x.bodyEnd.isSome⟩
    x.pull.2 = next.2 ∧ x.pull.1.bodyEnd.isSome = next.1.isOver ∧
      x.pull.1.pipe.buffer = next.1.pipe.buffer := by
  simp only [pull, PipeStream.next, h]
  cases he : x.bodyEnd with
  | some b => simp [he]
  | none =>
    rcases hp : x.pipe.pull with ⟨p, answer⟩
    cases answer <;> simp [he]

/-- The one failure that a pipe answers a write with, once its reader is gone. -/
def PipeFault (x : Exchange) (e : IoError) : Prop := e = .broken ∧ x.pipe.readerGone = true

/-- The bytes of the entity are accounted for. -/
structure Accounted (cs : Chunks) (x : Exchange) : Prop where
  upTo : x.delivery.UpTo cs x.PipeFault (x.received ++ x.pipe.buffer)
  shut_iff : x.pipe.shut = true ↔ x.delivery = .finished
  open_iff : x.pipe.writerGone = false ↔ x.stage = .writing
  clean : x.bodyEnd = some .clean → x.pipe.shut = true ∧ x.pipe.buffer = []

theorem accounted_start (capacity : Nat) (q : EngineRequest) (e : Entity) :
    (start capacity q e).Accounted e.chunks where
  upTo := Delivery.upTo_start e
  shut_iff := ⟨fun h => (nomatch h), fun h => absurd h (Delivery.ofChunks_ne_finished e.chunks)⟩
  open_iff := ⟨fun _ => rfl, fun _ => rfl⟩
  clean h := nomatch h

/-- Reading moves bytes out of the buffer, and neither loses nor makes any. -/
theorem CallMove.sent (hm : x.CallMove c x') :
    x'.received ++ x'.pipe.buffer = x.received ++ x.pipe.buffer := by
  cases hm with
  | chunk hb he hne =>
    rw [Pipe.buffer_release_capacity, List.append_nil]
    simp [received]
  | asked ha => rfl
  | ended hb he hne hs => rfl
  | cut hb he hne hs hw => rfl
  | handedOn hc hb hh => rfl
  | dropped hb => rfl
  | finished hc ha => rfl
  | reaped hc hh => rfl

namespace Accounted

theorem part_ne_nil (h : x.Accounted cs) (rest : Chunks) : x.delivery ≠ .writing [] rest := by
  intro hd
  have hu := h.upTo
  rw [hd] at hu
  exact hu.1 rfl

theorem not_shut (h : x.Accounted cs) (hd : x.delivery ≠ .finished) : x.pipe.shut = false := by
  cases hs : x.pipe.shut with
  | false => rfl
  | true => exact absurd (h.shut_iff.1 hs) hd

theorem not_clean (h : x.Accounted cs) (hd : x.delivery ≠ .finished) :
    x.bodyEnd ≠ some .clean :=
  fun hc => hd (h.shut_iff.1 (h.clean hc).1)

/-- A pipe refuses what is left to write only if its reader is gone. -/
theorem readerGone (h : x.Accounted cs) (hs : x.stage = .writing) (hd : x.delivery ≠ .finished)
    (hp : x.pipe.refuses = true) : x.pipe.readerGone = true := by
  simpa [Pipe.refuses, h.not_shut hd, h.open_iff.2 hs] using hp

/-- The writing goes on to another place in front of its end. -/
theorem goOn {d : Delivery} {p : Pipe} (h : x.Accounted cs) (hd : x.delivery ≠ .finished)
    (hd' : d ≠ .finished) (hshut : p.shut = x.pipe.shut)
    (hopen : p.writerGone = x.pipe.writerGone)
    (hu : d.UpTo cs ({ x with pipe := p, delivery := d } : Exchange).PipeFault
      (x.received ++ p.buffer)) :
    ({ x with pipe := p, delivery := d } : Exchange).Accounted cs where
  upTo := hu
  shut_iff := by
    show p.shut = true ↔ d = .finished
    rw [hshut, h.not_shut hd]
    exact ⟨fun e => (nomatch e), fun e => absurd e hd'⟩
  open_iff := by
    show p.writerGone = false ↔ x.stage = .writing
    rw [hopen]
    exact h.open_iff
  clean hc := absurd hc (h.not_clean hd)

theorem leave {s : ExchangeStage} {c : CallHold} (h : x.Accounted cs) (hs : s ≠ .writing) :
    ({ x with pipe := x.pipe.dropWriter, stage := s, hold := c } : Exchange).Accounted cs where
  upTo := h.upTo
  shut_iff := h.shut_iff
  open_iff := ⟨fun hw => (nomatch hw), fun e => absurd e hs⟩
  clean := h.clean

theorem writeMove (h : x.Accounted cs) (hm : x.WriteMove x') : x'.Accounted cs := by
  cases hm with
  | @put part rest hs hd hp hr =>
    have hu := hd ▸ h.upTo
    have htook : 0 < (part.take x.pipe.room).length := by
      have := List.length_pos_iff.2 hu.1
      rw [List.length_take]
      omega
    have htake : part.take (part.take x.pipe.room).length = part.take x.pipe.room := by
      simp [List.take_eq_take_iff]
    -- the part that is taken off the delivery is the part that the buffer gets
    have hu' := Delivery.upTo_took hu htook
    rw [htake, List.append_assoc] at hu'
    rw [hd]
    exact h.goOn (hd ▸ fun e => nomatch e) (Delivery.took_ne_finished _ _ _) rfl rfl hu'
  | refused hs hd hp =>
    have hne : x.delivery ≠ .finished := hd ▸ fun e => nomatch e
    exact h.goOn hne (fun e => nomatch e) rfl rfl (h.upTo.fault ⟨rfl, h.readerGone hs hne hp⟩)
  | flushed hs hd =>
    have hu := hd ▸ h.upTo
    exact h.goOn (hd ▸ fun e => nomatch e) (fun e => nomatch e) rfl rfl hu
  | shut hs hd =>
    have hu := hd ▸ h.upTo
    exact ⟨hu, ⟨fun _ => rfl, fun _ => rfl⟩, h.open_iff, fun hc => ⟨rfl, (h.clean hc).2⟩⟩
  | written hs hd => exact h.leave fun e => nomatch e
  | severed hs hd hk => exact h.leave fun e => nomatch e
  | faulted hs hd hk => exact h.leave fun e => nomatch e
  | joined hs hc =>
    refine ⟨h.upTo, h.shut_iff, ⟨fun hw => ?_, fun e => nomatch e⟩, h.clean⟩
    rw [h.open_iff.1 hw] at hs
    cases hs

theorem callMove (h : x.Accounted cs) (hm : x.CallMove c x') : x'.Accounted cs where
  upTo := by
    rw [hm.delivery, hm.sent]
    exact h.upTo.mono fun e he => ⟨he.1, hm.readerGone he.2⟩
  shut_iff := by rw [hm.shut, hm.delivery]; exact h.shut_iff
  open_iff := by rw [hm.writerGone, hm.stage]; exact h.open_iff
  clean hc := by
    cases hm with
    | chunk hb he hne =>
      rw [he] at hc
      cases hc
    | ended hb he hne hs => exact ⟨hs, hne⟩
    | cut hb he hne hs hw => cases hc
    | asked ha => exact h.clean hc
    | handedOn hr hb hh => exact h.clean hc
    | dropped hb => exact h.clean hc
    | finished hr ha => exact h.clean hc
    | reaped hr hh => exact h.clean hc

theorem move (h : x.Accounted cs) (hm : x.Move x') : x'.Accounted cs := by
  cases hm with
  | write hw => exact h.writeMove hw
  | call hc => exact h.callMove hc
  | abandon hs => exact h.leave fun e => nomatch e

theorem of_clean (h : x.Accounted cs) (hc : x.bodyEnd = some .clean) :
    cs.failure? = none ∧ x.received = cs.bytes := by
  obtain ⟨hshut, hempty⟩ := h.clean hc
  have hu := h.upTo
  rw [h.shut_iff.1 hshut, hempty, List.append_nil] at hu
  exact ⟨hu.2, hu.1⟩

end Accounted

theorem accounted_run (capacity : Nat) (q : EngineRequest) (e : Entity)
    (es : List ExchangeEvent) : ((start capacity q e).run es).Accounted e.chunks :=
  run_induction (P := fun x => x.Accounted e.chunks) (fun _ h => h.part_ne_nil)
    (fun _ _ h hm => h.move hm) (accounted_start capacity q e) es

/-- **A truncated body never looks complete.** Whatever the two sides do in whatever order, the
engine reading on, handing its body on or letting go of it, the caller giving up: what was read is
the beginning of the entity, and a body that ended cleanly is all of an entity that did not fail. -/
theorem truncated_never_complete (capacity : Nat) (q : EngineRequest) (e : Entity)
    (es : List ExchangeEvent) :
    let x := (start capacity q e).run es
    x.received <+: e.chunks.bytes ∧
      (x.bodyEnd = some .clean → e.chunks.failure? = none ∧ x.received = e.chunks.bytes) := by
  intro x
  have h : x.Accounted e.chunks := accounted_run capacity q e es
  exact ⟨(List.prefix_append _ _).trans h.upTo.isPrefix, h.of_clean⟩

end Exchange
end EndpointClient
