import EndpointClient.Health.Report
import EndpointClient.Proofs.Health.Change
import EndpointClient.Shutdown

/-!
# EndpointClient.Proofs.Health.Report

The reporting and the channel of the signal that ends it, step by step.

* `Listens` is a listener that has heard nothing yet, with the time of the first signal. What happens
  to the channel keeps that.
* `Report.Turn` is what the next step of the reporting is (`advance_turn`), and `Report.Waits` is when
  there is none (`advance_eq_none`).
* `Report.resume_of_inFlight`: a read that waits counts the result of its probe.
* `Report.getElem?_stop`, `Report.stop_states`: what the end of the reporting leaves of the monitors.
-/

namespace EndpointClient

theorem Listener.receive_eq_nothingYet {l : Listener} {c : Shutdown} :
    (l.receive c).1 = .nothingYet ↔ c.given ≤ l.heard ∧ c.handles ≠ 0 := by
  unfold receive
  split
  · rename_i h
    have hle : c.given ≤ l.heard := by omega
    by_cases hh : c.handles = 0 <;> simp [hh, hle]
  · rename_i h
    have hlt : ¬ c.given ≤ l.heard := by omega
    simp [hlt]
  · rename_i n h
    have hlt : ¬ c.given ≤ l.heard := by omega
    simp [hlt]

/-- A listener of a channel that has heard nothing, with the time of the first signal: it is one of
those that the channel counts, and there is something to hear as soon as there was a signal. -/
structure Listens (c : Shutdown) (l : Listener) (signalled : Option Nat) : Prop where
  heard : l.heard ≤ c.given
  counted : 0 < c.listeners
  silent : signalled = none ↔ c.given ≤ l.heard ∧ c.handles ≠ 0

namespace Listens

variable {c : Shutdown} {l : Listener} {signalled : Option Nat}

theorem hears_iff (h : Listens c l signalled) :
    (l.receive c).1 ≠ .nothingYet ↔ signalled ≠ none :=
  not_congr (Listener.receive_eq_nothingYet.trans h.silent.symm)

theorem trigger (h : Listens c l signalled) (now : Nat) :
    Listens c.trigger.1 l (signalled <|> some now) := by
  have htrigger : c.trigger.1 = { c with given := c.given + 1 } := by
    simp [Shutdown.trigger, Nat.ne_of_gt h.counted]
  have hsome : (signalled <|> some now) ≠ none := by cases signalled <;> simp
  rw [htrigger]
  refine ⟨Nat.le_succ_of_le h.heard, h.counted, iff_of_false hsome fun hno => ?_⟩
  exact Nat.not_succ_le_self _ (Nat.le_trans hno.1 h.heard)

theorem dropHandle (h : Listens c l signalled) (hc : 0 < c.handles) (now : Nat) :
    Listens c.dropHandle l (if c.handles = 1 then signalled <|> some now else signalled) := by
  refine ⟨h.heard, h.counted, ?_⟩
  by_cases hone : c.handles = 1
  · cases signalled <;> simp [hone, Shutdown.dropHandle]
  · have hleft : c.handles - 1 ≠ 0 := by omega
    have hhandles : c.handles ≠ 0 := Nat.ne_of_gt hc
    simp only [hone, if_false, h.silent, Shutdown.dropHandle, ne_eq, hhandles, hleft]

theorem clone (h : Listens c l signalled) (hc : 0 < c.handles) : Listens c.clone l signalled := by
  refine ⟨h.heard, h.counted, h.silent.trans (and_congr_right fun _ => ?_)⟩
  exact iff_of_true (Nat.ne_of_gt hc) (Nat.succ_ne_zero _)

theorem subscribe (h : Listens c l signalled) : Listens c.subscribe.1 l signalled :=
  ⟨h.heard, Nat.le_succ_of_le h.counted, h.silent⟩

theorem dropListener (h : Listens c l signalled) (hc : 1 < c.listeners) :
    Listens c.dropListener l signalled :=
  ⟨h.heard, Nat.sub_pos_of_lt hc, h.silent⟩

end Listens

namespace Report

variable {r r' : Report} {now : Nat} {ms ms' : List Monitor} {j : Journal}

/-- The probe that the reporting waits for, by the place of its monitor and its number there. -/
def awaited? (r : Report) : Option (Nat × Nat) :=
  match r.phase with
  | .probing index _ number => some (index, number)
  | _ => none

/-- What the next step of the reporting is. -/
inductive Turn (r : Report) (now : Nat) (ms : List Monitor) :
    Report → List Monitor → Journal → Prop where
  | ticked (hp : r.phase = .waiting) (hd : r.next ≤ now) :
      Turn r now ms { r with next := r.next + r.period, phase := .reading 0 0 } ms []
  | summarized {i healthy : Nat} (hp : r.phase = .reading i healthy) (hm : ms[i]? = none) :
      Turn r now ms { r with phase := .waiting } ms [.summarized healthy ms.length]
  | read {i healthy : Nat} {m : Monitor} (hp : r.phase = .reading i healthy)
      (hm : ms[i]? = some m) (hs : m.state.isHealthy = true) :
      Turn r now ms (r.afterRead i healthy m).1 ms (r.afterRead i healthy m).2
  | began {i healthy : Nat} {m : Monitor} (hp : r.phase = .reading i healthy)
      (hm : ms[i]? = some m) (hs : m.state.isHealthy = false) :
      Turn r now ms { r with phase := .probing i healthy m.begun }
        (ms.set i (m.beginProbe now).1) []
  | answered {i healthy n : Nat} {m : Monitor} (hp : r.phase = .probing i healthy n)
      (hm : ms[i]? = some m) (hn : m.isInFlight n = false) :
      Turn r now ms (r.afterRead i healthy m).1 ms (r.afterRead i healthy m).2

theorem advance_turn (h : r.advance now ms = some (r', ms', j)) : r.Turn now ms r' ms' j := by
  unfold advance at h
  split at h
  · rename_i hp
    split at h
    · cases h
      exact .ticked hp ‹_›
    · cases h
  · rename_i i healthy hp
    split at h
    · cases h
      exact .summarized hp ‹_›
    · split at h
      · cases h
        exact .read hp ‹_› ‹_›
      · rename_i hs
        cases h
        exact .began hp ‹_› (Bool.eq_false_iff.2 hs)
  · rename_i i healthy n hp
    split at h
    · cases h
    · split at h
      · cases h
      · rename_i hn
        cases h
        exact .answered hp ‹_› (Bool.eq_false_iff.2 hn)
  · cases h
  · cases h

theorem Turn.whole (ht : r.Turn now ms r' ms' j) : r'.phase ≠ .broken := by
  cases ht <;> exact nofun

theorem Turn.next (ht : r.Turn now ms r' ms' j) :
    r'.period = r.period ∧ (r'.next = r.next ∨ r'.next = r.next + r.period) := by
  cases ht with
  | ticked => exact ⟨rfl, .inr rfl⟩
  | summarized | read | began | answered => exact ⟨rfl, .inl rfl⟩

theorem Turn.orderly (ht : r.Turn now ms r' ms' j) (h : ∀ m ∈ ms, m.Orderly) :
    ∀ m ∈ ms', m.Orderly := by
  cases ht with
  | ticked | summarized | read | answered => exact h
  | began hp hm hs =>
    exact Monitor.orderly_set h _ ((h _ (List.mem_of_getElem? hm)).step now .check)

/-- A monitor after the end of the reporting. The probe that it waited for is dropped. -/
theorem getElem?_stop {k : Nat} {m' : Monitor} (h : (r.stop ms).2[k]? = some m') :
    ∃ m, ms[k]? = some m ∧ ((∀ n, r.awaited? ≠ some (k, n)) ∧ m' = m ∨
      ∃ n, r.awaited? = some (k, n) ∧ m' = m.dropProbe n) := by
  have hsame {m : Monitor} (hr : ∀ n, r.awaited? ≠ some (k, n)) (hm : ms[k]? = some m) :
      ∃ m', ms[k]? = some m' ∧ ((∀ n, r.awaited? ≠ some (k, n)) ∧ m = m' ∨
        ∃ n, r.awaited? = some (k, n) ∧ m = m'.dropProbe n) := ⟨m, hm, .inl ⟨hr, rfl⟩⟩
  unfold stop at h
  split at h
  · rename_i i healthy n hp
    by_cases hk : i = k
    · subst hk
      rw [List.getElem?_modify_eq, Option.map_eq_map, Option.map_eq_some_iff] at h
      obtain ⟨m, hm, rfl⟩ := h
      exact ⟨m, hm, .inr ⟨n, by simp [awaited?, hp], rfl⟩⟩
    · rw [List.getElem?_modify_ne _ _ hk] at h
      exact hsame (by simp [awaited?, hp, hk]) h
  · rename_i hp
    refine hsame (fun n hwait => ?_) h
    unfold awaited? at hwait
    split at hwait
    · rename_i i healthy number hp'
      exact hp i healthy number hp'
    · cases hwait

theorem orderly_stop (h : ∀ m ∈ ms, m.Orderly) (hfree : ∀ (i n : Nat) (m : Monitor),
    r.awaited? = some (i, n) → ms[i]? = some m → m.scheduled? ≠ some n) :
    ∀ m ∈ (r.stop ms).2, m.Orderly := by
  intro m' hmem
  obtain ⟨k, hk⟩ := List.mem_iff_getElem?.1 hmem
  obtain ⟨m, hm, ⟨-, rfl⟩ | ⟨n, hwait, rfl⟩⟩ := getElem?_stop hk
  · exact h m' (List.mem_of_getElem? hm)
  · have hgaveUp : m.Change 0 (.giveUp n) (m.dropProbe n) := .gaveUp (hfree k n m hwait hm)
    exact hgaveUp.orderly (h m (List.mem_of_getElem? hm))

theorem stop_states (r : Report) (ms : List Monitor) :
    (r.stop ms).2.map Monitor.state = ms.map Monitor.state := by
  unfold stop
  split
  · refine List.ext_getElem? fun k => ?_
    simp only [List.getElem?_map, List.getElem?_modify]
    cases ms[k]? with
    | none => rfl
    | some m => simp only [Option.map_eq_map, Option.map_some]; split <;> rfl
  · rfl

theorem stop_phase (r : Report) (ms : List Monitor) : (r.stop ms).1.phase = .stopped := by
  unfold stop
  split <;> rfl

theorem stop_next (r : Report) (ms : List Monitor) :
    (r.stop ms).1.next = r.next ∧ (r.stop ms).1.period = r.period := by
  unfold stop
  split <;> exact ⟨rfl, rfl⟩

theorem awaited?_iff {i n : Nat} :
    r.awaited? = some (i, n) ↔ ∃ healthy, r.phase = .probing i healthy n := by
  unfold awaited?
  split
  · rename_i index healthy number hp
    simp [hp]
  · rename_i hp
    refine ⟨fun h => (nomatch h), fun ⟨healthy, h⟩ => absurd h (hp i healthy n)⟩

/-- The read that waits goes on with the result of its probe. -/
theorem resume_of_inFlight {i healthy n : Nat} {m : Monitor} (hp : r.phase = .probing i healthy n)
    (hm : ms[i]? = some m) (hn : m.isInFlight n = true) (now : Nat) (result : ProbeResult) :
    r.resume now result ms = some
      ({ r with phase := .reading (i + 1) (healthy + if result.state.isHealthy then 1 else 0) },
        ms.set i (m.step now (.answered n result)).1,
        .seen m.target result.state :: (m.step now (.answered n result)).2) := by
  obtain ⟨p, hfind⟩ := Monitor.find?_of_isInFlight hn
  simp only [resume, hp, hm, Option.map_some, Monitor.step, Monitor.endProbe_of_inFlight hfind]
  rfl

theorem start_of_reaches {c : Clock} {period : Nat} (h : now + period ≤ c.last) :
    start c now period = ⟨period, now + period, .waiting⟩ := by
  rw [start, if_pos (Clock.reaches_iff.2 h)]

theorem start_of_beyond {c : Clock} {period : Nat} (h : c.last < now + period) :
    start c now period = ⟨period, now + period, .broken⟩ := by
  rw [start, if_neg (mt Clock.reaches_iff.1 (Nat.not_le.2 h))]

/-- The reporting waits for its tick or for a probe, or is over. -/
inductive Waits (r : Report) (now : Nat) (ms : List Monitor) : Prop where
  | tick (hp : r.phase = .waiting) (hd : now < r.next)
  | probe {i healthy n : Nat} (hp : r.phase = .probing i healthy n)
      (hn : ∀ m, ms[i]? = some m → m.isInFlight n = true)
  | stopped (hp : r.phase = .stopped)
  | broken (hp : r.phase = .broken)

theorem advance_eq_none : r.advance now ms = none ↔ r.Waits now ms := by
  constructor
  · intro h
    unfold advance at h
    split at h
    · rename_i hp
      split at h
      · cases h
      · exact .tick hp (Nat.not_le.1 ‹_›)
    · split at h
      · cases h
      · split at h <;> cases h
    · rename_i i healthy n hp
      split at h
      · rename_i hm
        exact .probe hp (by simp [hm])
      · rename_i m hm
        split at h
        · rename_i hn
          refine .probe hp fun m' hm' => ?_
          cases hm.symm.trans hm'
          exact hn
        · cases h
    · exact .stopped ‹_›
    · exact .broken ‹_›
  · rintro (⟨hp, hd⟩ | ⟨hp, hn⟩ | hp | hp)
    · simp [advance, hp, Nat.not_le.2 hd]
    · rename_i i healthy n
      cases hm : ms[i]? with
      | none => simp [advance, hp, hm]
      | some m => simp [advance, hp, hm, hn m hm]
    · simp [advance, hp]
    · simp [advance, hp]

end Report

end EndpointClient
