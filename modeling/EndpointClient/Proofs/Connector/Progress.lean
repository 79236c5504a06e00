import EndpointClient.Proofs.Connector.Outcome

/-!
# EndpointClient.Proofs.Connector.Progress

No exchange goes on for ever.

* `Exchange.left` is what is left to do for both sides together. A byte counts twice while it is to
  be written and once while it is buffered, so that writing it is progress and reading it is, too.
* `Move.left_lt`: every move leaves less to do, in whatever order the sides take their turns.
-/

namespace EndpointClient
namespace Exchange

variable {x x' : Exchange} {c : CallEvent}

/-- What is left to do in the task of the call, each at most once: to ask, to see the end of the
body, to hand the body on, to let go of it, and to end. -/
def callLeft (x : Exchange) : Nat :=
  x.asked.isEmpty.toNat + x.bodyEnd.isNone.toNat + (!x.handedOn).toNat +
    (!x.pipe.readerGone).toNat + x.call.isRunning.toNat

def left (x : Exchange) : Nat := 2 * x.writerLeft + x.pipe.buffer.length + x.callLeft

theorem WriteMove.callLeft (h : x.WriteMove x') : x'.callLeft = x.callLeft := by
  cases h <;> rfl

theorem CallMove.writerLeft (h : x.CallMove c x') : x'.writerLeft = x.writerLeft := by
  rw [Exchange.writerLeft, Exchange.writerLeft, h.stage, h.delivery]

theorem callLeft_endCall (hc : x.call.isRunning = true) {s : CallState}
    (hs : s.isRunning = false) : (x.endCall s).callLeft < x.callLeft := by
  have hgone : (!(x.endCall s).pipe.readerGone).toNat ≤ (!x.pipe.readerGone).toNat := by
    cases hr : x.pipe.readerGone with
    | false => exact Bool.toNat_le _
    | true => simp [endCall, hr]
  have hcall : (x.endCall s).call.isRunning.toNat < x.call.isRunning.toNat := by
    simp [endCall, hs, hc]
  simp only [callLeft]
  simp only [endCall] at hgone hcall ⊢
  omega

theorem WriteMove.left_lt (hne : ∀ rest, x.delivery ≠ .writing [] rest) (h : x.WriteMove x') :
    x'.left < x.left := by
  obtain ⟨hlt, hle⟩ := h.writerLeft_lt hne
  have hcall := h.callLeft
  simp only [left]
  omega

theorem CallMove.left_lt (h : x.CallMove c x') : x'.left < x.left := by
  have hwriter := h.writerLeft
  simp only [left, hwriter]
  cases h with
  | asked ha =>
    have hnone : x.asked.isEmpty = true := by
      simp only [awaitsAsk, Bool.and_eq_true] at ha
      exact ha.1.2
    simp [callLeft, hnone]
  | chunk hb he hne =>
    have hpos := List.length_pos_iff.2 hne
    rw [Pipe.buffer_release_capacity, List.length_nil]
    simp only [callLeft, Pipe.readerGone_release]
    omega
  | ended hb he hne hs => simp [callLeft, he]
  | cut hb he hne hs hw => simp [callLeft, he]
  | handedOn hc hb hh => simp [callLeft, hh]
  | dropped hb =>
    have hheld : x.pipe.readerGone = false := by
      simp only [bodyHeld, Bool.and_eq_true, Bool.not_eq_true'] at hb
      exact hb.2
    simp [callLeft, dropBody, hheld]
  | finished hc ha => exact Nat.add_lt_add_left (callLeft_endCall hc rfl) _
  | reaped hc hh => exact Nat.add_lt_add_left (callLeft_endCall hc rfl) _

theorem Move.left_lt (hne : ∀ rest, x.delivery ≠ .writing [] rest) (h : x.Move x') :
    x'.left < x.left := by
  cases h with
  | write hw => exact hw.left_lt hne
  | call hc => exact hc.left_lt
  | abandon hs =>
    have hpos : 0 < x.writerLeft := by
      rcases hs with hs | ⟨fault, hs⟩
      · rw [writerLeft_writing hs]
        omega
      · rw [writerLeft_joining hs]
        omega
    show 2 * 0 + x.pipe.buffer.length + x.callLeft < 2 * x.writerLeft + _ + _
    omega

end Exchange
end EndpointClient
