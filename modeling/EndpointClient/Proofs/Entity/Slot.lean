import EndpointClient.Proofs.Entity.Sink
import Mathlib.Data.List.Basic

/-!
# EndpointClient.Proofs.Entity.Slot

Sinks registered and entities written, one call after another.

* `EntitySlot.performAll` makes calls in a row. `performAll_append`, `performAll_of_spent`: how runs
  are put together, and what comes of all calls once the entity is gone.
* `Ends.of_accepting`: a sink that accepts everything gets the whole entity.
* `delivered_or_given_up`: the first writing decides. With a sink registered the entity goes into
  it, and into no other one. `given_up_without_sink`: without a sink it is lost.
-/

namespace EndpointClient

variable {σ : Type} {answer : σ → SinkCall → σ × SinkReply}

/-- A call that has to do with the entity of a request. -/
inductive SlotCall (σ : Type) where
  | setSink (sink : σ)
  | write

/-- What comes of a call: the sink that is dropped, if one is, and the result of a writing. -/
inductive SlotAnswer (σ : Type) where
  | registered (dropped : Option σ)
  | written (dropped : Option σ) (result : Except IoError Unit)

namespace EntitySlot

def perform (answer : σ → SinkCall → σ × SinkReply) (slot : EntitySlot σ) :
    SlotCall σ → EntitySlot σ × SlotAnswer σ
  | .setSink sink => ((slot.setSink sink).1, .registered (slot.setSink sink).2)
  | .write => ((slot.write answer).1, .written (slot.write answer).2.1 (slot.write answer).2.2)

/-- Calls in a row, with what comes of each. -/
def performAll (answer : σ → SinkCall → σ × SinkReply) :
    EntitySlot σ → List (SlotCall σ) → EntitySlot σ × List (SlotAnswer σ)
  | slot, [] => (slot, [])
  | slot, c :: cs =>
    let next := slot.perform answer c
    let rest := performAll answer next.1 cs
    (rest.1, next.2 :: rest.2)

/-- The sink that is registered after calls, if none of them uses it. -/
def sinkAfter : Option σ → List (SlotCall σ) → Option σ
  | old, [] => old
  | _, .setSink sink :: cs => sinkAfter (some sink) cs
  | old, .write :: cs => sinkAfter old cs

/-- What comes of calls that leave all sinks alone: each sink is dropped as it was registered, when
the next one is, and each writing has nothing to do. -/
def untouched : Option σ → List (SlotCall σ) → List (SlotAnswer σ)
  | _, [] => []
  | old, .setSink sink :: cs => .registered old :: untouched (some sink) cs
  | old, .write :: cs => .written none (.ok ()) :: untouched old cs

theorem performAll_append (slot : EntitySlot σ) (front back : List (SlotCall σ)) :
    performAll answer slot (front ++ back) =
      ((performAll answer (performAll answer slot front).1 back).1,
        (performAll answer slot front).2 ++
          (performAll answer (performAll answer slot front).1 back).2) := by
  induction front generalizing slot with
  | nil => rfl
  | cons c front ih =>
    simp only [List.cons_append, performAll]
    rw [ih]

/-- Once the entity is gone, no call reaches a sink. -/
theorem performAll_of_spent (answer : σ → SinkCall → σ × SinkReply) (old : Option σ)
    (cs : List (SlotCall σ)) :
    performAll answer ⟨none, old⟩ cs = (⟨none, sinkAfter old cs⟩, untouched old cs) := by
  induction cs generalizing old with
  | nil => rfl
  | cons c cs ih =>
    cases c with
    | setSink sink =>
      have hnext := ih (some sink)
      simp only [performAll, perform, setSink, sinkAfter, untouched, hnext]
    | write =>
      have hnext := ih old
      simp only [performAll, perform, write, sinkAfter, untouched, hnext]

/-- Without a writing nothing happens to the entity, and to no sink. -/
theorem performAll_of_unwritten (answer : σ → SinkCall → σ × SinkReply) (e : Option Entity)
    (old : Option σ) {cs : List (SlotCall σ)} (h : ∀ c ∈ cs, c ≠ .write) :
    performAll answer ⟨e, old⟩ cs = (⟨e, sinkAfter old cs⟩, untouched old cs) := by
  induction cs generalizing old with
  | nil => rfl
  | cons c cs ih =>
    cases c with
    | setSink sink =>
      have hnext := ih (some sink) fun c hc => h c (List.mem_cons_of_mem _ hc)
      simp only [performAll, perform, setSink, sinkAfter, untouched, hnext]
    | write => exact absurd rfl (h .write List.mem_cons_self)

theorem sinkAfter_append (old : Option σ) (front back : List (SlotCall σ)) :
    sinkAfter old (front ++ back) = sinkAfter (sinkAfter old front) back := by
  induction front generalizing old with
  | nil => rfl
  | cons c front ih => cases c <;> exact ih _

end EntitySlot

/-! ## Sinks that accept everything -/

/-- A sink that never fails and takes something of each write, if there is something to take. -/
structure AcceptingSink (answer : σ → SinkCall → σ × SinkReply) : Prop where
  lawful : LawfulSink answer
  accepts : ∀ (s : σ) (c : SinkCall), c ≠ .write [] → (answer s c).2.fault? = none

theorem Served.fault?_eq_none (ha : AcceptingSink answer) {s s' : σ} {log : SinkLog}
    (h : Served answer s log s') : ∀ x ∈ log, x.1 ≠ .write [] → x.2.fault? = none := by
  induction h with
  | uncalled s => simp
  | @called s _ _ c _ ih =>
    intro x hx hne
    rcases List.mem_cons.1 hx with rfl | hx
    · exact ha.accepts s c hne
    · exact ih x hx hne

/-- The log of a sink that has stored an entity and was closed. -/
structure Closed (e : Entity) (log : SinkLog) : Prop where
  calls : ∃ ws : SinkLog, log = ws ++ [(.flush, .done), (.shutdown, .done)] ∧ ∀ x ∈ ws, Taken x
  stored : log.stored = e.chunks.bytes

theorem Ends.of_accepting {e : Entity} {log : SinkLog} {r : Except IoError Unit}
    (h : Ends e.chunks log r) (hf : e.chunks.failure? = none)
    (hlog : ∀ x ∈ log, x.1 ≠ .write [] → x.2.fault? = none) : r = .ok () ∧ Closed e log := by
  have hstored := h.stored
  cases h with
  | delivered hw hs _ => exact ⟨rfl, ⟨_, rfl, hw⟩, (hstored.2 rfl).1⟩
  | entityFailed hw hs he =>
    rw [hf] at he
    cases he
  | writeFailed hw hcs hfront hne hs he =>
    have hnone := hlog _ (List.mem_append_right _ List.mem_cons_self) (by simpa using hne)
    rw [he] at hnone
    cases hnone
  | flushFailed hw hs _ =>
    have hnone := hlog _ (List.mem_append_right _ List.mem_cons_self) (by simp)
    cases hnone
  | @shutdownFailed _ err hw hs _ =>
    have hnone := hlog (.shutdown, .failed err) (by simp) (by simp)
    cases hnone

namespace EntitySlot

theorem write_of_accepting (ha : AcceptingSink answer) {e : Entity}
    (hf : e.chunks.failure? = none) (s : σ) : ∃ log s',
      write answer ⟨some e, some s⟩ = (⟨none, none⟩, some s', .ok ()) ∧ Served answer s log s' ∧
        Closed e log := by
  obtain ⟨log, s', r, hwrite, hserved, hends⟩ := ends_write ha.lawful e s
  obtain ⟨rfl, hclosed⟩ := hends.of_accepting hf (hserved.fault?_eq_none ha)
  exact ⟨log, s', hwrite, hserved, hclosed⟩

theorem first_write (cs : List (SlotCall σ)) : (∀ c ∈ cs, c ≠ .write) ∨
    ∃ front back, cs = front ++ .write :: back ∧ ∀ c ∈ front, c ≠ .write := by
  induction cs with
  | nil => simp
  | cons c cs ih =>
    cases c with
    | write => exact .inr ⟨[], cs, rfl, by simp⟩
    | setSink sink =>
      rcases ih with hnone | ⟨front, back, rfl, hfront⟩
      · exact .inl (by simpa using hnone)
      · exact .inr ⟨.setSink sink :: front, back, rfl, by simpa using hfront⟩

/-- **The first writing decides where an entity goes.** For sinks that accept everything and an
entity that does not fail, each row of calls is of one of three sorts. Nothing is written: then the
request keeps its entity. A sink is registered when the entity is written first: then it goes into
the last one, whole and closed, each other sink is dropped as it was registered, and no writing
before that one succeeds. No sink is registered when it is written first: this writing fails, but
the entity is given up with it, no sink ever gets it, and each later writing succeeds. -/
theorem delivered_or_given_up (ha : AcceptingSink answer) {e : Entity}
    (hf : e.chunks.failure? = none) (calls : List (SlotCall σ)) :
    let after := performAll answer ⟨some e, none⟩ calls
    ((∀ c ∈ calls, c ≠ .write) ∧
      after = (⟨some e, sinkAfter none calls⟩, untouched none calls)) ∨
    (∃ front sink back, calls = front ++ .setSink sink :: .write :: back ∧
      (∀ c ∈ front, c ≠ .write) ∧ ∃ log sink', Served answer sink log sink' ∧ Closed e log ∧
        after = (⟨none, sinkAfter none back⟩, untouched none (front ++ [.setSink sink]) ++
          .written (some sink') (.ok ()) :: untouched none back)) ∨
    ∃ back, calls = .write :: back ∧ after =
      (⟨none, sinkAfter none back⟩, .written none (.error .noSink) :: untouched none back) := by
  intro after
  rcases first_write calls with hnone | ⟨front, back, rfl, hfront⟩
  · exact .inl ⟨hnone, performAll_of_unwritten answer _ _ hnone⟩
  · right
    rcases List.eq_nil_or_concat' front with rfl | ⟨front, c, rfl⟩
    · refine .inr ⟨back, rfl, ?_⟩
      have hback := performAll_of_spent answer none back
      simp only [after, List.nil_append, performAll, perform, write, hback]
    · cases c with
      | write => exact absurd rfl (hfront .write (by simp))
      | setSink sink =>
        obtain ⟨log, sink', hwrite, hserved, hclosed⟩ := write_of_accepting ha hf sink
        refine .inl ⟨front, sink, back, by simp, fun c hc => hfront c (by simp [hc]), log, sink',
          hserved, hclosed, ?_⟩
        have hregistered : sinkAfter none (front ++ [.setSink sink]) = some sink := by
          rw [sinkAfter_append]
          rfl
        have hback := performAll_of_spent answer none back
        have hregister := performAll_of_unwritten answer (some e) none hfront
        simp only [after, performAll_append, hregister, hregistered, performAll, perform, hwrite,
          hback]

end EntitySlot

/-- A sink that notes its calls and accepts everything. -/
def noting (s : List SinkCall) (c : SinkCall) : List SinkCall × SinkReply :=
  (s ++ [c], match c with
    | .write bs => .took bs.length
    | .flush => .done
    | .shutdown => .done)

theorem accepting_noting : AcceptingSink noting where
  lawful := by
    intro s c
    cases c with
    | write bs => exact Nat.le_refl _
    | flush => rfl
    | shutdown => rfl
  accepts := by
    intro s c hne
    cases c with
    | write bs =>
      cases bs with
      | nil => exact absurd rfl hne
      | cons b bs => rfl
    | flush => rfl
    | shutdown => rfl

namespace EntitySlot

/-- Two sinks are registered, and the entity is written twice. -/
theorem delivered_or_given_up_second :
    let e : Entity := .stream [.ok [1, 2], .ok [], .ok [3]]
    let calls : List (SlotCall (List SinkCall)) := [.setSink [], .setSink [], .write, .write]
    let after := performAll noting ⟨some e, none⟩ calls
    AcceptingSink noting ∧ e.chunks.failure? = none ∧
    (((∀ c ∈ calls, c ≠ .write) ∧
      after = (⟨some e, sinkAfter none calls⟩, untouched none calls)) ∨
    (∃ front sink back, calls = front ++ .setSink sink :: .write :: back ∧
      (∀ c ∈ front, c ≠ .write) ∧ ∃ log sink', Served noting sink log sink' ∧ Closed e log ∧
        after = (⟨none, sinkAfter none back⟩, untouched none (front ++ [.setSink sink]) ++
          .written (some sink') (.ok ()) :: untouched none back)) ∨
    ∃ back, calls = .write :: back ∧ after =
      (⟨none, sinkAfter none back⟩, .written none (.error .noSink) :: untouched none back)) :=
  ⟨accepting_noting, rfl, delivered_or_given_up accepting_noting rfl _⟩

/-- Written without a sink, and written again with one: the request has lost its entity at the first
attempt, the second one succeeds, and the sink has met no call. -/
theorem given_up_without_sink :
    let slot : EntitySlot (List SinkCall) := ⟨some (.whole [1]), none⟩
    (slot.perform noting .write).1.entity = none ∧
      performAll noting slot [.write, .setSink [], .write] = (⟨none, some []⟩,
        [.written none (.error .noSink), .registered none, .written none (.ok ())]) :=
  ⟨rfl, rfl⟩

end EntitySlot
end EndpointClient
