import EndpointClient.Proofs.Health.Change

/-!
# EndpointClient.Proofs.Health.LastProbe

The state that a monitor keeps is that of the probe that completed last.

* `Monitor.completed m es` are the probes that a run completes, with their results, the earliest
  first. `results_run`: these are the probes that are logged. `log_cases`: what else is.
* `state_run`: the state after a run is that of the last of them. `inFlight_of_completed`,
  `not_completed_of_gone`: a probe completes while it is in flight, and one that has come out of
  flight in whatever way never completes later.
* `state_of_last_completed`: so it is for a monitor from its first probe on, under every
  interleaving of its probes, its schedule and its end.
-/

namespace EndpointClient

def Journal.results (j : Journal) : List ProbeResult :=
  j.filterMap fun
    | .probed p => some p.result
    | _ => none

theorem Journal.results_append (j j' : Journal) :
    Journal.results (j ++ j') = j.results ++ j'.results := List.filterMap_append

namespace Monitor

variable {m m' : Monitor} {now n : Nat} {ev : MonitorEvent}

/-- The probe that an event completes, with its result. -/
def completion? (m : Monitor) : MonitorEvent → Option (Nat × ProbeResult)
  | .answered n r => if m.isInFlight n then some (n, r) else none
  | _ => none

/-- The probes that a run completes, with their results, the earliest first. -/
def completed (m : Monitor) : List (Nat × MonitorEvent) → List (Nat × ProbeResult)
  | [] => []
  | (now, ev) :: es => (m.completion? ev).toList ++ (m.step now ev).1.completed es

theorem completed_append (m : Monitor) (es es' : List (Nat × MonitorEvent)) :
    m.completed (es ++ es') = m.completed es ++ (m.run es).1.completed es' := by
  induction es generalizing m with
  | nil => rfl
  | cons u es ih =>
    show _ ++ (m.step u.1 u.2).1.completed (es ++ es') = (_ ++ _) ++ _
    rw [ih, List.append_assoc]
    rfl

theorem completion?_eq_some {c : Nat × ProbeResult} (h : m.completion? ev = some c) :
    ev = .answered c.1 c.2 ∧ m.isInFlight c.1 = true := by
  cases ev with
  | answered n r =>
    simp only [completion?, Option.ite_none_right_eq_some, Option.some.injEq] at h
    obtain ⟨hn, rfl⟩ := h
    exact ⟨rfl, hn⟩
  | _ => cases h

/-! ## What a completed probe leaves -/

theorem Change.state (hc : m.Change now ev m') (hn : m.completion? ev = none) :
    m'.state = m.state := by
  cases hc with
  | completed r hk => simp [completion?, hk] at hn
  | read | check | gaveUp | scheduled | overran | ticked | began | haltedIdle | haltedTicked
  | brokeDown | stopped | dropped | shutDown | abortedProbe | abortedWait => rfl

theorem step_completed {c : Nat × ProbeResult} (h : m.completion? ev = some c) (now : Nat) :
    (m.step now ev).1.state = c.2.state ∧ (m.step now ev).1.isInFlight c.1 = false ∧
      (m.step now ev).2.results = [c.2] := by
  obtain ⟨rfl, hn⟩ := completion?_eq_some h
  obtain ⟨p, hp⟩ := find?_of_isInFlight hn
  rw [step, endProbe_of_inFlight hp]
  refine ⟨rfl, ?_, rfl⟩
  have hgone : (m.forget c.1).isInFlight c.1 = false := by simp [isInFlight_forget]
  exact hgone

theorem state_step (m : Monitor) (now : Nat) (ev : MonitorEvent) :
    (m.step now ev).1.state = ((m.completion? ev).map (·.2.state)).getD m.state := by
  cases h : m.completion? ev with
  | some c => exact (step_completed h now).1
  | none =>
    rcases m.step_change now ev with hsame | hc
    · rw [hsame]
      rfl
    · exact hc.state h

theorem state_run (m : Monitor) (es : List (Nat × MonitorEvent)) :
    (m.run es).1.state = ((m.completed es).getLast?.map (·.2.state)).getD m.state := by
  induction es generalizing m with
  | nil => rfl
  | cons u es ih =>
    rw [run_cons, ih, state_step]
    show _ = (((m.completion? u.2).toList ++ (m.step u.1 u.2).1.completed es).getLast?.map _).getD _
    cases m.completion? u.2 with
    | none => rfl
    | some c =>
      rw [Option.toList_some, List.singleton_append, List.getLast?_cons]
      cases ((m.step u.1 u.2).1.completed es).getLast? <;> rfl

/-! ## Which probes complete -/

theorem inFlight_of_completed (es : List (Nat × MonitorEvent))
    (h : n ∈ (m.completed es).map (·.1)) : m.isInFlight n = true ∨ m.begun ≤ n := by
  induction es generalizing m with
  | nil => cases h
  | cons u es ih =>
    rw [completed, List.map_append, List.mem_append] at h
    rcases h with hhead | htail
    · simp only [List.mem_map, Option.mem_toList] at hhead
      obtain ⟨c, hc, rfl⟩ := hhead
      exact .inl (completion?_eq_some hc).2
    · rcases m.step_change u.1 u.2 with hsame | hc
      · rw [hsame] at htail
        exact ih htail
      · rcases ih htail with hn | hn
        · exact (hc.inFlight hn).imp_right fun h => Nat.le_of_eq h.1.symm
        · exact .inr (Nat.le_trans hc.begun_le hn)

/-- A probe that has begun and is in flight no more, dropped, aborted or completed, never
completes later. -/
theorem not_completed_of_gone (hb : n < m.begun) (hn : m.isInFlight n = false)
    (es : List (Nat × MonitorEvent)) : n ∉ (m.completed es).map (·.1) := by
  intro h
  rcases inFlight_of_completed es h with h | h
  · cases hn.symm.trans h
  · omega

theorem gone_run (hb : n < m.begun) (hn : m.isInFlight n = false)
    (es : List (Nat × MonitorEvent)) :
    n < (m.run es).1.begun ∧ (m.run es).1.isInFlight n = false := by
  refine run_induction (P := fun m => n < m.begun ∧ m.isInFlight n = false)
    (fun m m' now ev h hc => ⟨Nat.lt_of_lt_of_le h.1 hc.begun_le, ?_⟩) ⟨hb, hn⟩ es
  cases hn' : m'.isInFlight n with
  | false => rfl
  | true =>
    rcases hc.inFlight hn' with hf | ⟨rfl, -⟩
    · cases h.2.symm.trans hf
    · exact absurd h.1 (Nat.lt_irrefl _)

/-- A probe that an event completes is done with for good. -/
theorem gone_of_completion {c : Nat × ProbeResult} (h : m.Orderly)
    (hc : m.completion? ev = some c) (now : Nat) :
    c.1 < (m.step now ev).1.begun ∧ (m.step now ev).1.isInFlight c.1 = false := by
  refine ⟨?_, (step_completed hc now).2.1⟩
  have hlt := h.numbered _ (completion?_eq_some hc).2
  rcases m.step_change now ev with hsame | hchange
  · rwa [hsame]
  · exact Nat.lt_of_lt_of_le hlt hchange.begun_le

/-- A probe completes once at most, and is not in flight then. -/
theorem completed_run (h : m.Orderly) (es : List (Nat × MonitorEvent)) :
    ((m.completed es).map (·.1)).Nodup ∧ ∀ n ∈ (m.completed es).map (·.1),
      n < (m.run es).1.begun ∧ (m.run es).1.isInFlight n = false := by
  induction es generalizing m with
  | nil => exact ⟨List.nodup_nil, fun _ h => by cases h⟩
  | cons u es ih =>
    obtain ⟨hnodup, hgone⟩ := ih (h.step u.1 u.2)
    have hhead {c : Nat × ProbeResult} (hc : m.completion? u.2 = some c) :=
      gone_of_completion h hc u.1
    rw [completed, List.map_append, run_cons]
    cases hc : m.completion? u.2 with
    | none => exact ⟨hnodup, hgone⟩
    | some c =>
      obtain ⟨hlt, hout⟩ := hhead hc
      refine ⟨List.nodup_cons.2 ⟨not_completed_of_gone hlt hout es, hnodup⟩, fun n hn => ?_⟩
      rcases List.mem_cons.1 hn with rfl | htail
      · exact gone_run hlt hout es
      · exact hgone n htail

/-! ## In the journal -/

/-- All that a step can log. -/
theorem log_cases {e : Happening} (h : e ∈ (m.step now ev).2) :
    (∃ n r p, ev = .answered n r ∧ m.isInFlight n = true ∧ e = .probed p) ∨
    (∃ d, e = .scheduleStarted m.target d) ∨ e = .scheduleStopped m.target ∨
    ∃ d, e = .probeAborted m.target d := by
  cases ev with
  | answered n r =>
    cases hn : m.isInFlight n with
    | false =>
      rw [step, endProbe_of_idle hn] at h
      cases h
    | true =>
      obtain ⟨p, hp⟩ := find?_of_isInFlight hn
      rw [step, endProbe_of_inFlight hp] at h
      exact .inl ⟨n, r, _, rfl, hn, List.mem_singleton.1 h⟩
  | schedule c anchor period =>
    simp only [step] at h
    split at h
    · exact .inr (.inl ⟨_, List.mem_singleton.1 h⟩)
    · cases h
  | takeTick =>
    simp only [step, takeTick] at h
    split at h
    · cases h
    · split at h
      · exact .inr (.inr (.inl (List.mem_singleton.1 h)))
      · split at h <;> cases h
    · cases h
  | useTick =>
    simp only [step, useTick] at h
    split at h
    · split at h
      · exact .inr (.inr (.inl (List.mem_singleton.1 h)))
      · cases h
    · cases h
  | expire grace =>
    simp only [step] at h
    split at h
    · cases h
    · exact .inr (.inr (.inr ⟨_, List.mem_singleton.1 h⟩))
  | read | check | giveUp | breakDown | stop | drop | shutdown => cases h

theorem results_step (h : m.completion? ev = none) (now : Nat) :
    (m.step now ev).2.results = [] := by
  refine List.filterMap_eq_nil_iff.2 fun e he => ?_
  rcases log_cases he with ⟨n, r, p, rfl, hn, -⟩ | ⟨d, rfl⟩ | rfl | ⟨d, rfl⟩
  · simp [completion?, hn] at h
  · rfl
  · rfl
  · rfl

/-- The probes that a run completes are those that it logs. -/
theorem results_run (m : Monitor) (es : List (Nat × MonitorEvent)) :
    (m.run es).2.results.reverse = (m.completed es).map (·.2) := by
  induction es generalizing m with
  | nil => rfl
  | cons u es ih =>
    have hrun : (m.run (u :: es)).2 = ((m.step u.1 u.2).1.run es).2 ++ (m.step u.1 u.2).2 := rfl
    have hsplit : (m.run (u :: es)).2.results.reverse =
        (m.step u.1 u.2).2.results.reverse ++ ((m.step u.1 u.2).1.run es).2.results.reverse := by
      rw [hrun, Journal.results_append, List.reverse_append]
    rw [hsplit, ih, completed, List.map_append]
    cases hc : m.completion? u.2 with
    | none => rw [results_step hc]; rfl
    | some c => rw [(step_completed hc u.1).2.2]; rfl

/-- **The state is that of the probe that completed last.** Let a monitor be probed at its beginning,
by its schedule, by its readers and on demand, all at once, and let it be stopped, dropped or shut
down, and callers drop their probes, at any moment. At every moment the state is healthy if the last
probe that completed was answered with a status from 200 to 499, and unhealthy otherwise, also if
none has completed, whichever began last.

A probe completes once at most. One that is in flight has not completed, and one that was dropped or
aborted never will; and nothing changes the state but a probe that completes. -/
theorem state_of_last_completed (t : ProbeTarget) (es : List (Nat × MonitorEvent)) :
    let m := ((new t).run es).1
    let done := (new t).completed es
    (m.state = match done.getLast? with
      | some (_, .ok s) => if 200 ≤ s.code ∧ s.code ≤ 499 then .healthy else .unhealthy
      | _ => .unhealthy) ∧
    (done.map (·.1)).Nodup ∧
    (∀ n, m.isInFlight n = true → n ∉ done.map (·.1)) ∧
    (∀ n, n < m.begun → m.isInFlight n = false → ∀ es', n ∉ (m.completed es').map (·.1)) ∧
    ∀ now ev, (m.step now ev).1.state = m.state ∨ ∃ n r, ev = .answered n r ∧
      m.isInFlight n = true ∧ (m.step now ev).1.isInFlight n = false ∧
        (m.step now ev).1.state = r.state := by
  intro m done
  obtain ⟨hnodup, hgone⟩ := completed_run (orderly_new t) es
  refine ⟨?_, hnodup, fun n hn hmem => ?_, fun n hb hn es' => not_completed_of_gone hb hn es',
    fun now ev => ?_⟩
  · rw [state_run]
    show Option.getD (done.getLast?.map _) _ = _
    cases done.getLast? with
    | none => rfl
    | some c =>
      obtain ⟨n, r⟩ := c
      cases r <;> rfl
  · cases hn.symm.trans (hgone n hmem).2
  · cases hc : m.completion? ev with
    | none =>
      left
      rw [state_step, hc]
      rfl
    | some c =>
      obtain ⟨hev, hn⟩ := completion?_eq_some hc
      obtain ⟨hstate, hout, -⟩ := step_completed hc now
      exact .inr ⟨c.1, c.2, hev, hn, hout, hstate⟩

/-- Of two probes at once the one that began first completes last. -/
example (t : ProbeTarget) : ((new t).run [(0, .check), (1, .check), (2, .answered 1 (.ok .ok)),
    (3, .answered 0 (.error .cancelled))]).1.state = .unhealthy := rfl

end Monitor
end EndpointClient
