import EndpointClient.Proofs.Connector.Rule

/-!
# EndpointClient.Proofs.Connector.Deadlock

The two sides of an exchange never wait for each other.

* `Exchange.ReleasesBody` is the rule of an engine that reads up to some point of its request body,
  which may be its start or its end, lets go of it, and then ends the call as it likes.
  `Exchange.Released`: the body is gone with the call.
* `Exchange.WaitsForRoom`, `Exchange.WaitsForBytes`: the one side waits for the other. `waits_apart`:
  never do both, and never does one of them for a side that is gone.
* `never_deadlocks`: as long as a request has not ended, one of the sides makes progress, and it ends
  after no more such steps than there was to do.
-/

namespace EndpointClient

open Http (Chunks)

namespace Exchange

variable {cs : Chunks} {x : Exchange}

/-- The request body is gone when the call ends: the engine let go of it, or it goes with the call.
-/
def ReleasesBody (x : Exchange) : CallEvent → Prop
  | .finish _ => x.handedOn = false ∨ x.pipe.readerGone = true
  | _ => True

def Released (x : Exchange) : Prop := x.call.isRunning = false → x.pipe.readerGone = true

theorem stable_released (q : EngineRequest) (e : Entity) : Stable ReleasesBody q e Released where
  start _ h := nomatch h
  write _ hq hm := by
    rw [Released, hm.call, hm.readerGone]
    exact hq
  call hx hq hr hm := by
    cases hm with
    | finished hc ha =>
      intro _
      rcases hr with hh | hg
      · simp [endCall, hh]
      · simp [endCall, hg]
    | dropped hb => exact fun _ => rfl
    | reaped hc hh => exact absurd hh (hx.staged.not_aborted hx.kept)
    | asked ha => exact hq
    | chunk hb he hne => exact hq
    | ended hb he hne hs => exact hq
    | cut hb he hne hs hw => exact hq
    | handedOn hc hb hh => exact hq

theorem lively_released (cs : Chunks) : Lively ReleasesBody cs Released := by
  intro x hx hq hw
  have hrun : x.call.isRunning = true := by
    rcases hx.wait hw with ⟨_, _, -, hgone, -⟩ | ⟨hrun, -⟩
    · cases hc : x.call.isRunning with
      | true => rfl
      | false =>
        rw [hq hc] at hgone
        cases hgone
    · exact hrun
  by_cases ha : x.asked = []
  · exact ⟨_, .ask hrun ha trivial⟩
  · cases hg : x.pipe.readerGone with
    | false =>
      have hb : x.bodyHeld = true := by simp [bodyHeld, ha, hg]
      exact ⟨_, .dropBody hrun hb trivial⟩
    | true => exact ⟨.finish (.panicked ""), .finish hrun ha (.inr hg)⟩

/-! ## Who waits for whom -/

/-- The writing side waits for room in the pipe. -/
def WaitsForRoom (x : Exchange) : Prop := x.stage = .writing ∧ x.write = none

/-- The engine waits for bytes in the pipe. -/
def WaitsForBytes (x : Exchange) : Prop :=
  x.bodyHeld = true ∧ x.bodyEnd = none ∧ x.pull.2 = .pending

theorem WaitsForBytes.empty (h : x.WaitsForBytes) :
    x.pipe.buffer = [] ∧ x.pipe.writerGone = false := by
  obtain ⟨hb, he, hp⟩ := h
  by_cases hne : x.pipe.buffer = []
  · refine ⟨hne, ?_⟩
    cases hs : x.pipe.shut with
    | true => simp [pull, hb, he, Pipe.pull_shut hne hs] at hp
    | false =>
      cases hw : x.pipe.writerGone with
      | false => rfl
      | true => simp [pull, hb, he, Pipe.pull_cut hne hs hw] at hp
  · simp [pull, hb, he, Pipe.pull_buffered hne] at hp

theorem Ongoing.full (h : x.Ongoing cs) (hw : x.WaitsForRoom) :
    x.pipe.buffer ≠ [] ∧ x.pipe.readerGone = false := by
  have hblocked : x.Blocked := ⟨hw.2, by rw [hw.1]; exact fun o e => nomatch e⟩
  rcases h.wait hblocked with ⟨_, _, -, hgone, hne⟩ | ⟨-, hgone⟩
  · exact ⟨hne, hgone⟩
  · rw [h.account.open_iff.2 hw.1] at hgone
    cases hgone

/-- Never does each side wait for the other, and never does a side wait for one that is gone. -/
theorem Ongoing.waits_apart (h : x.Ongoing cs) : ¬ (x.WaitsForRoom ∧ x.WaitsForBytes) ∧
    (x.WaitsForRoom → x.pipe.readerGone = false) ∧
      (x.WaitsForBytes → x.pipe.writerGone = false) :=
  ⟨fun ⟨hroom, hbytes⟩ => (h.full hroom).1 hbytes.empty.1, fun hroom => (h.full hroom).2,
    fun hbytes => hbytes.empty.2⟩

end Exchange

/-- **An exchange cannot deadlock.** Let the engine read up to some point of its request body, let go
of it and then end the call in whatever way, and let the two sides take their turns in any order. As
long as the request has not ended, the side of the caller makes progress, or whatever the engine sets
out to do does; neither waits for the other while that one waits for it, or for one that is gone. No
run has more steps that make progress than there is work left, and one that makes progress until the
request has ended comes to an outcome. -/
theorem never_deadlocks (mode : SendMode) (capacity : Nat) (r : ClientRequest) (e : Entity)
    (hr : r.entity = some e) (es : List (Nat × DispatchEvent))
    (hes : (Dispatch.start mode capacity r).Obeys Exchange.ReleasesBody es) :
    let d := ((Dispatch.start mode capacity r).run es).1
    (d.ended = none → d.GoesOn Exchange.ReleasesBody) ∧
      (∀ x, d.work = .streamed x → ¬ (x.WaitsForRoom ∧ x.WaitsForBytes) ∧
        (x.WaitsForRoom → x.pipe.readerGone = false) ∧
          (x.WaitsForBytes → x.pipe.writerGone = false)) ∧
      ∀ es', d.Obeys Exchange.ReleasesBody es' → d.strides es' ≤ d.left ∧
        (d.Brisk es' → d.left ≤ es'.length →
          ∃ outcome, (d.run es').1.ended = some (.completed outcome)) := by
  intro d
  have hstable := Exchange.stable_released r.engineRequest e
  have hlively := Exchange.lively_released e.chunks
  have hd : d.Upholds Exchange.Released r e :=
    ((Dispatch.upholds_start mode capacity r e).run hstable hr hes).1
  refine ⟨hd.goesOn hstable hlively hr, fun x hx => ?_, fun es' hes' => ?_⟩
  · cases hd with
    | unbegun hw hd he =>
      rw [hw] at hx
      cases hx
    | streamed hw hx' hq he =>
      rw [hw] at hx
      cases hx
      exact hx'.waits_apart
  · have hstrides := (hd.run hstable hr hes').2
    exact ⟨by omega, fun hb hl => hd.outcome_of_brisk hstable hlively hr hes' hb hl⟩

namespace Dispatch

/-- Three bytes in three chunks, one of which is empty. -/
def threeBytes : ClientRequest :=
  ⟨.get, ⟨none, [], ['/'], none⟩, .empty, {}, some (.stream [.ok [1, 2], .ok [], .ok [3]])⟩

/-- The engine reads one byte, and the writing side goes on as far as it can. -/
def oneRead : List (Nat × DispatchEvent) :=
  [(0, .advance), (1, .advance), (2, .call .ask), (3, .call .pull), (4, .advance)]

/-- The engine lets go of its body and is cancelled, and the writing side goes on to the end. -/
def bodyDropped : List (Nat × DispatchEvent) :=
  [(5, .call .dropBody), (6, .advance), (7, .advance),
    (8, .call (.finish (.returned (.error .cancelled)))), (9, .advance)] ++
      List.replicate 12 (10, .advance)

end Dispatch

/-- With a pipe of one byte the writing side waits for room when the engine has read one of three
bytes. The engine lets go of its body then, and the request still ends. -/
theorem never_deadlocks_blocked :
    let d := ((Dispatch.start .sync 0 Dispatch.threeBytes).run Dispatch.oneRead).1
    (d.advance 5).isNone = true ∧ d.left = 17 ∧
      ∃ outcome, (d.run Dispatch.bodyDropped).1.ended = some (.completed outcome) := by
  have hbegun : (Dispatch.start .sync 0 Dispatch.threeBytes).Obeys Exchange.ReleasesBody
      Dispatch.oneRead :=
    ⟨trivial, trivial, fun _ _ => trivial, fun _ _ => trivial, trivial, trivial⟩
  have hes : ((Dispatch.start .sync 0 Dispatch.threeBytes).run Dispatch.oneRead).1.Obeys
      Exchange.ReleasesBody Dispatch.bodyDropped :=
    ⟨fun _ _ => trivial, trivial, trivial, Dispatch.permits_of_work rfl (.inl rfl), trivial,
      Dispatch.obeys_advances _ _ 12 10⟩
  have hbrisk : ((Dispatch.start .sync 0 Dispatch.threeBytes).run Dispatch.oneRead).1.Brisk
      Dispatch.bodyDropped :=
    ⟨fun _ => by decide, fun _ => by decide, fun _ => by decide, fun _ => by decide,
      fun _ => by decide, Dispatch.brisk_of_ended rfl _⟩
  exact ⟨rfl, rfl, ((never_deadlocks .sync 0 Dispatch.threeBytes _ rfl Dispatch.oneRead
    hbegun).2.2 Dispatch.bodyDropped hes).2 hbrisk (by decide)⟩

end EndpointClient
