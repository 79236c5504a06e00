import EndpointClient.Health.Startup

/-!
# EndpointClient.Proofs.Health.Change

What an event does to a monitor.

* `Monitor.Change m now ev m'` has a case for everything that `ev` can do at the time `now`, with all
  that it takes for it. `step_change`: a step changes nothing, or it is one of these.
* `Monitor.Orderly m`: a probe in flight has begun, and the probe of the schedule is in flight.
  `Change.orderly`: no change breaks that. `Orderly.run`: so it is in every run of a new monitor
  (`orderly_new`).
* `Change.begun_le`, `Change.inFlight`: a probe comes into flight when it begins, and never again.
  `Change.inFlight_kept`: there it stays until it ends or is dropped.
* `run_start`, `run_complete`, `run_of_pollSchedule`: how a monitor is made, and how its schedule is
  carried on, are runs.
* `getElem?_modify_step`: what happens to one monitor of several leaves the others alone.
-/

namespace EndpointClient
namespace Monitor

variable {m m' : Monitor} {now n k : Nat} {ev : MonitorEvent}

/-! ## Probes in flight -/

theorem isInFlight_iff : m.isInFlight n = true ↔ ∃ p ∈ m.inFlight, p.number = n := by
  simp [isInFlight]

theorem isInFlight_beginProbe (m : Monitor) (now n : Nat) :
    (m.beginProbe now).1.isInFlight n = (m.isInFlight n || decide (m.begun = n)) := by
  simp [isInFlight, beginProbe]

theorem isInFlight_forget (m : Monitor) (k n : Nat) :
    (m.forget k).isInFlight n = (m.isInFlight n && decide (n ≠ k)) := by
  rw [Bool.eq_iff_iff, Bool.and_eq_true, isInFlight_iff, isInFlight_iff]
  constructor
  · rintro ⟨p, hp, rfl⟩
    rw [forget, List.mem_filter] at hp
    exact ⟨⟨p, hp.1, rfl⟩, hp.2⟩
  · rintro ⟨⟨p, hp, rfl⟩, hk⟩
    exact ⟨p, List.mem_filter.2 ⟨hp, hk⟩, rfl⟩

theorem find?_of_isInFlight (h : m.isInFlight n = true) :
    ∃ p, m.inFlight.find? (·.number = n) = some p := by
  rw [← Option.isSome_iff_exists, List.find?_isSome]
  simpa [isInFlight] using h

theorem endProbe_of_idle (h : m.isInFlight n = false) (now : Nat) (r : ProbeResult) :
    m.endProbe n now r = (m, []) := by
  have hnone : m.inFlight.find? (·.number = n) = none := by
    rw [← Option.not_isSome_iff_eq_none, List.find?_isSome]
    simpa [isInFlight] using h
  simp [endProbe, hnone]

theorem endProbe_of_inFlight {p : Probe} (h : m.inFlight.find? (·.number = n) = some p) (now : Nat)
    (r : ProbeResult) : m.endProbe n now r =
      ({ m.forget n with
          flag := m.flag.store r.state, schedule := m.schedule.map (Schedule.resume · n) },
        [.probed ⟨m.target, r, .ofMillis (now - p.began)⟩]) := by
  simp [endProbe, h]

theorem scheduled?_iff :
    m.scheduled? = some n ↔ ∃ period next, m.schedule = some ⟨period, next, .probing n⟩ := by
  unfold scheduled?
  split
  · rename_i period next k hs
    simp [hs]
  · rename_i hs
    refine ⟨fun h => (nomatch h), fun ⟨period, next, h⟩ => absurd h (hs period next n)⟩

/-- A schedule that waits for another probe, or for none, goes on as it was. -/
theorem schedule_resume_of_ne (h : m.scheduled? ≠ some n) :
    m.schedule.map (Schedule.resume · n) = m.schedule := by
  cases hs : m.schedule with
  | none => rfl
  | some u =>
    have hne : u.phase ≠ .probing n := by
      intro hp
      exact h (scheduled?_iff.2 ⟨u.period, u.next, by rw [hs, ← hp]⟩)
    rw [Option.map_some, Schedule.resume, if_neg hne]

/-- The schedule breaks down at its first turn, for its first tick is beyond the clock. -/
def IsBeyond (m : Monitor) : Prop := ∃ period next, m.schedule = some ⟨period, next, .beyond⟩

def IsBroken (m : Monitor) : Prop := ∃ period next, m.schedule = some ⟨period, next, .broken⟩

theorem scheduled?_scheduleFrom (m : Monitor) (c : Clock) (anchor period : Nat) :
    (m.scheduleFrom c anchor period).1.scheduled? = none := by
  cases hn : (m.scheduleFrom c anchor period).1.scheduled? with
  | none => rfl
  | some n =>
    obtain ⟨p, next, hs⟩ := scheduled?_iff.1 hn
    have hphase : (Schedule.start c anchor period).phase = .probing n :=
      congrArg Schedule.phase (Option.some.inj hs)
    rcases Schedule.start_phase c anchor period with hp | hp <;> cases hp.symm.trans hphase

/-! ## Changes -/

inductive Change (m : Monitor) (now : Nat) : MonitorEvent → Monitor → Prop where
  | read (hs : m.state.isHealthy = false) : Change m now .read (m.beginProbe now).1
  | check : Change m now .check (m.beginProbe now).1
  | completed {n : Nat} (r : ProbeResult) (hn : m.isInFlight n = true) :
      Change m now (.answered n r)
        { m.forget n with
          flag := m.flag.store r.state, schedule := m.schedule.map (Schedule.resume · n) }
  | gaveUp {n : Nat} (hn : m.scheduled? ≠ some n) : Change m now (.giveUp n) (m.forget n)
  | scheduled {c : Clock} {anchor period : Nat} (hs : m.schedule = none) :
      Change m now (.schedule c anchor period) (m.scheduleFrom c anchor period).1
  | overran {period next : Nat} (hs : m.schedule = some ⟨period, next, .beyond⟩) :
      Change m now .takeTick { m with schedule := some ⟨period, next, .broken⟩ }
  | ticked {period next : Nat} (hs : m.schedule = some ⟨period, next, .idle⟩)
      (hr : m.stopped = false) (hd : next ≤ now) :
      Change m now .takeTick { m with schedule := some ⟨period, next + period, .ticked⟩ }
  | began {period next : Nat} (hs : m.schedule = some ⟨period, next, .ticked⟩)
      (hr : m.stopped = false) :
      Change m now .useTick
        { (m.beginProbe now).1 with schedule := some ⟨period, next, .probing m.begun⟩ }
  | haltedIdle {period next : Nat} (hs : m.schedule = some ⟨period, next, .idle⟩)
      (hr : m.stopped = true) : Change m now .takeTick (m.haltSchedule period next).1
  | haltedTicked {period next : Nat} (hs : m.schedule = some ⟨period, next, .ticked⟩)
      (hr : m.stopped = true) : Change m now .useTick (m.haltSchedule period next).1
  | brokeDown {period next n : Nat} (hs : m.schedule = some ⟨period, next, .probing n⟩) :
      Change m now .breakDown { m.forget n with schedule := some ⟨period, next, .broken⟩ }
  | stopped : Change m now .stop m.stop
  | dropped : Change m now .drop m.stop
  | shutDown : Change m now .shutdown m.beginShutdown.1
  | abortedProbe {grace period next n : Nat} (hh : m.holdsSchedule = false)
      (hs : m.schedule = some ⟨period, next, .probing n⟩) :
      Change m now (.expire grace) { m.forget n with schedule := some ⟨period, next, .aborted⟩ }
  | abortedWait {grace period next : Nat} (hh : m.holdsSchedule = false) (hs : m.scheduled? = none) :
      Change m now (.expire grace) { m with schedule := some ⟨period, next, .aborted⟩ }

theorem takeTick_change {mj : Monitor × Journal} (h : m.takeTick now = some mj) :
    m.Change now .takeTick mj.1 := by
  unfold takeTick at h
  split at h
  · cases h
    exact .overran ‹_›
  · rename_i period next hs
    split at h
    · cases h
      exact .haltedIdle hs ‹_›
    · rename_i hr
      split at h
      · cases h
        exact .ticked hs (by simpa using hr) ‹_›
      · cases h
  · cases h

theorem useTick_change {mj : Monitor × Journal} (h : m.useTick now = some mj) :
    m.Change now .useTick mj.1 := by
  unfold useTick at h
  split at h
  · rename_i period next hs
    split at h
    · cases h
      exact .haltedTicked hs ‹_›
    · rename_i hr
      cases h
      exact .began hs (by simpa using hr)
  · cases h

theorem abortSchedule_change {grace : Nat} (hh : m.holdsSchedule = false) :
    m.abortSchedule = m ∨ m.Change now (.expire grace) m.abortSchedule := by
  unfold abortSchedule
  split
  · exact .inr (.abortedProbe hh ‹_›)
  · rename_i hs
    exact .inr (.abortedWait hh (by simp [scheduled?, hs]))
  · rename_i hs
    exact .inr (.abortedWait hh (by simp [scheduled?, hs]))
  · rename_i hs
    exact .inr (.abortedWait hh (by simp [scheduled?, hs]))
  · exact .inl rfl

theorem step_change (m : Monitor) (now : Nat) (ev : MonitorEvent) :
    (m.step now ev).1 = m ∨ m.Change now ev (m.step now ev).1 := by
  cases ev with
  | read =>
    simp only [step]
    split
    · exact .inl rfl
    · rename_i h
      exact .inr (.read (by simpa using h))
  | check => exact .inr .check
  | answered n r =>
    simp only [step]
    cases hn : m.isInFlight n with
    | false => exact .inl (by rw [endProbe_of_idle hn])
    | true =>
      obtain ⟨p, hp⟩ := find?_of_isInFlight hn
      rw [endProbe_of_inFlight hp]
      exact .inr (.completed r hn)
  | giveUp n =>
    simp only [step]
    split
    · exact .inl rfl
    · exact .inr (.gaveUp ‹_›)
  | schedule c anchor period =>
    simp only [step]
    split
    · exact .inr (.scheduled (Option.isNone_iff_eq_none.1 ‹_›))
    · exact .inl rfl
  | takeTick =>
    simp only [step]
    cases h : m.takeTick now with
    | none => exact .inl rfl
    | some mj => exact .inr (takeTick_change h)
  | useTick =>
    simp only [step]
    cases h : m.useTick now with
    | none => exact .inl rfl
    | some mj => exact .inr (useTick_change h)
  | breakDown =>
    simp only [step, breakSchedule]
    split
    · exact .inr (.brokeDown ‹_›)
    · exact .inl rfl
  | stop => exact .inr .stopped
  | drop => exact .inr .dropped
  | shutdown => exact .inr .shutDown
  | expire grace =>
    simp only [step]
    split
    · exact .inl rfl
    · rename_i h
      simp only [Bool.or_eq_true, not_or, Bool.not_eq_true] at h
      exact abortSchedule_change h.1

/-- What no change breaks, no run breaks. -/
theorem run_induction {P : Monitor → Prop}
    (hchange : ∀ m m' now ev, P m → m.Change now ev m' → P m') (h : P m)
    (es : List (Nat × MonitorEvent)) : P (m.run es).1 := by
  induction es generalizing m with
  | nil => exact h
  | cons u es ih =>
    refine ih (m := (m.step u.1 u.2).1) ?_
    rcases m.step_change u.1 u.2 with hsame | hc
    · rwa [hsame]
    · exact hchange m _ u.1 u.2 h hc

theorem run_cons (m : Monitor) (u : Nat × MonitorEvent) (es : List (Nat × MonitorEvent)) :
    (m.run (u :: es)).1 = ((m.step u.1 u.2).1.run es).1 := rfl

theorem run_append (m : Monitor) (es es' : List (Nat × MonitorEvent)) :
    (m.run (es ++ es')).1 = ((m.run es).1.run es').1 := by
  induction es generalizing m with
  | nil => rfl
  | cons u es ih => exact ih _

theorem run_append_journal (m : Monitor) (es es' : List (Nat × MonitorEvent)) :
    (m.run (es ++ es')).2 = ((m.run es).1.run es').2 ++ (m.run es).2 := by
  induction es generalizing m with
  | nil => exact (List.append_nil _).symm
  | cons u es ih =>
    show ((m.step u.1 u.2).1.run (es ++ es')).2 ++ _ = _ ++ (((m.step u.1 u.2).1.run es).2 ++ _)
    rw [ih, List.append_assoc]
    rfl

/-! ## Books -/

theorem Change.target_eq (hc : m.Change now ev m') : m'.target = m.target := by
  cases hc <;> rfl

theorem Change.begun_le (hc : m.Change now ev m') : m.begun ≤ m'.begun := by
  cases hc with
  | read | check | began => exact Nat.le_succ _
  | completed | gaveUp | scheduled | overran | ticked | haltedIdle | haltedTicked | brokeDown
  | stopped | dropped | shutDown | abortedProbe | abortedWait => exact Nat.le_refl _

/-- A probe comes into flight when it begins, and never again. -/
theorem Change.inFlight (hc : m.Change now ev m') (hn : m'.isInFlight n = true) :
    m.isInFlight n = true ∨ n = m.begun ∧ m'.begun = m.begun + 1 := by
  have hbegin (h : (m.beginProbe now).1.isInFlight n = true) :
      m.isInFlight n = true ∨ n = m.begun := by
    rw [isInFlight_beginProbe, Bool.or_eq_true, decide_eq_true_eq] at h
    exact h.imp_right Eq.symm
  have hforget {k : Nat} (h : (m.forget k).isInFlight n = true) : m.isInFlight n = true := by
    rw [isInFlight_forget, Bool.and_eq_true] at h
    exact h.1
  cases hc with
  | read | check | began => exact (hbegin hn).imp_right fun h => ⟨h, rfl⟩
  | completed | gaveUp | brokeDown | abortedProbe => exact .inl (hforget hn)
  | scheduled | overran | ticked | haltedIdle | haltedTicked | stopped | dropped | shutDown
  | abortedWait => exact .inl hn

/-- A probe that is not of the schedule stays in flight until it ends or is dropped. -/
theorem Change.inFlight_kept (hc : m.Change now ev m') (hn : m.isInFlight n = true)
    (hs : m.scheduled? ≠ some n) (hg : ev ≠ .giveUp n) (ha : ∀ r, ev ≠ .answered n r) :
    m'.isInFlight n = true := by
  have hbegin : (m.beginProbe now).1.isInFlight n = true := by
    rw [isInFlight_beginProbe, hn, Bool.true_or]
  have hforget {k : Nat} (hne : n ≠ k) : (m.forget k).isInFlight n = true := by
    rw [isInFlight_forget, hn, decide_eq_true hne, Bool.and_true]
  cases hc with
  | read | check | began => exact hbegin
  | completed r => exact hforget fun e => ha r (e ▸ rfl)
  | gaveUp => exact hforget fun e => hg (e ▸ rfl)
  | brokeDown hs' | abortedProbe _ hs' =>
    exact hforget fun e => hs (scheduled?_iff.2 ⟨_, _, e ▸ hs'⟩)
  | scheduled | overran | ticked | haltedIdle | haltedTicked | stopped | dropped | shutDown
  | abortedWait => exact hn

/-- The probes of a monitor in order. -/
structure Orderly (m : Monitor) : Prop where
  numbered : ∀ n, m.isInFlight n = true → n < m.begun
  scheduled : ∀ n, m.scheduled? = some n → m.isInFlight n = true

theorem orderly_new (t : ProbeTarget) : (new t).Orderly :=
  ⟨fun _ h => (nomatch h), fun _ h => (nomatch h)⟩

/-- The probe that the schedule waits for is the same as before, and as much in flight, or it has just
begun. -/
theorem Change.scheduled? (hc : m.Change now ev m') (hn : m'.scheduled? = some n) :
    m.scheduled? = some n ∧ (m.isInFlight n = true → m'.isInFlight n = true) ∨
      ev = .useTick ∧ m.stopped = false ∧ n = m.begun ∧ m'.isInFlight n = true := by
  cases hc with
  | read | check =>
    refine .inl ⟨hn, fun h => ?_⟩
    rw [isInFlight_beginProbe, h, Bool.true_or]
  | @completed k r hk =>
    obtain ⟨period, next, hs⟩ := scheduled?_iff.1 hn
    obtain ⟨s, hs₀, hresume⟩ := Option.map_eq_some_iff.1 hs
    unfold Schedule.resume at hresume
    split at hresume
    · cases hresume
    · rename_i hne
      subst hresume
      refine .inl ⟨scheduled?_iff.2 ⟨period, next, hs₀⟩, fun h => ?_⟩
      have hnk : n ≠ k := fun e => hne (e ▸ rfl)
      have hkept : (m.forget k).isInFlight n = true := by simp [isInFlight_forget, h, hnk]
      exact hkept
  | @gaveUp k hk =>
    refine .inl ⟨hn, fun h => ?_⟩
    have hnk : n ≠ k := fun e => hk (e ▸ hn)
    simp [isInFlight_forget, h, hnk]
  | @began period next hs hr =>
    cases hn
    have hflight : (m.beginProbe now).1.isInFlight m.begun = true := by
      simp [isInFlight_beginProbe]
    exact .inr ⟨rfl, hr, rfl, hflight⟩
  | stopped | dropped | shutDown => exact .inl ⟨hn, id⟩
  | scheduled => cases (scheduled?_scheduleFrom m _ _ _).symm.trans hn
  | overran | ticked | haltedIdle | haltedTicked | brokeDown | abortedProbe | abortedWait =>
    cases hn

theorem Change.orderly (h : m.Orderly) (hc : m.Change now ev m') : m'.Orderly where
  numbered n hn := by
    rcases hc.inFlight hn with hb | ⟨rfl, hb⟩
    · exact Nat.lt_of_lt_of_le (h.numbered n hb) hc.begun_le
    · rw [hb]
      exact Nat.lt_succ_self _
  scheduled n hn := by
    rcases hc.scheduled? hn with ⟨hs, hkept⟩ | ⟨-, -, -, hflight⟩
    · exact hkept (h.scheduled n hs)
    · exact hflight

theorem Orderly.step (h : m.Orderly) (now : Nat) (ev : MonitorEvent) :
    (m.step now ev).1.Orderly := by
  rcases m.step_change now ev with hsame | hc
  · rwa [hsame]
  · exact hc.orderly h

theorem Orderly.run (h : m.Orderly) (es : List (Nat × MonitorEvent)) : (m.run es).1.Orderly :=
  run_induction (fun _ _ _ _ h hc => hc.orderly h) h es

/-! ## Monitors as they are made and carried on -/

/-- A monitor in the making is one that was asked for a probe. -/
theorem run_start (p : MonitorPlan) (now : Nat) :
    (MonitorDraft.start p now).monitor = ((new p.target).run [(now, .check)]).1 := rfl

theorem run_complete (d : MonitorDraft) (hs : d.monitor.schedule = none) (c : Clock) (now : Nat) :
    d.complete c = d.monitor.run (d.period.elim [] fun p => [(now, .schedule c d.anchor p)]) := by
  unfold MonitorDraft.complete
  cases d.period with
  | none => rfl
  | some p => simp [run, step, hs, scheduleFrom]

/-- Taking a tick is silent, unless that brings the schedule to its end. -/
theorem silent_of_takeTick {mj mj' : Monitor × Journal} (h : m.takeTick now = some mj)
    (huse : mj.1.useTick now = some mj') : mj.2 = [] := by
  unfold takeTick at h
  split at h
  · cases h
    cases huse
  · split at h
    · cases h
      cases huse
    · split at h
      · cases h
        rfl
      · cases h
  · cases h

/-- The schedule is carried on by taking a tick, or by using one, or by both. -/
theorem run_of_pollSchedule {mj : Monitor × Journal} (h : m.pollSchedule now = some mj) :
    ∃ turns : List MonitorEvent, (∀ ev ∈ turns, ev = .takeTick ∨ ev = .useTick) ∧
      m.run (turns.map (now, ·)) = mj := by
  unfold pollSchedule at h
  cases htake : m.takeTick now with
  | none =>
    rw [htake] at h
    exact ⟨[.useTick], by simp, by simp [run, step, show m.useTick now = some mj from h]⟩
  | some mj' =>
    obtain ⟨m', j⟩ := mj'
    rw [htake, Option.some.injEq] at h
    subst h
    cases huse : m'.useTick now with
    | none => exact ⟨[.takeTick], by simp, by simp [run, step, htake]⟩
    | some mj'' =>
      have hsilent : j = [] := silent_of_takeTick htake huse
      exact ⟨[.takeTick, .useTick], by simp, by simp [run, step, htake, huse, hsilent]⟩

/-! ## Several monitors -/

theorem getElem?_concat_cases {α : Type} {xs : List α} {x y : α} (h : (xs ++ [x])[k]? = some y) :
    xs[k]? = some y ∨ k = xs.length ∧ y = x := by
  rcases Nat.lt_trichotomy k xs.length with hlt | rfl | hgt
  · exact .inl ((List.getElem?_append_left hlt).symm.trans h)
  · rw [List.getElem?_concat_length, Option.some.injEq] at h
    exact .inr ⟨rfl, h.symm⟩
  · rw [List.getElem?_eq_none (by simp; omega)] at h
    cases h

theorem getElem?_modify_step {ms : List Monitor} {i : Nat}
    (h : (ms.modify i fun m => (m.step now ev).1)[k]? = some m') :
    ∃ m, ms[k]? = some m ∧ (m' = m ∨ i = k ∧ m.Change now ev m') := by
  simp only [List.getElem?_modify, Option.map_eq_map, Option.map_eq_some_iff] at h
  obtain ⟨m, hm, rfl⟩ := h
  refine ⟨m, hm, ?_⟩
  split
  · rename_i hk
    exact (m.step_change now ev).imp_right fun hc => ⟨hk, hc⟩
  · exact .inl rfl

theorem orderly_modify_step {ms : List Monitor} (h : ∀ m ∈ ms, m.Orderly) (i now : Nat)
    (ev : MonitorEvent) : ∀ m ∈ ms.modify i fun m => (m.step now ev).1, m.Orderly := by
  intro m' hmem
  obtain ⟨k, hk⟩ := List.mem_iff_getElem?.1 hmem
  obtain ⟨m, hm, rfl | ⟨-, hc⟩⟩ := getElem?_modify_step hk
  · exact h m' (List.mem_of_getElem? hm)
  · exact hc.orderly (h m (List.mem_of_getElem? hm))

theorem orderly_set {ms : List Monitor} (h : ∀ m ∈ ms, m.Orderly) (i : Nat) (hm : m.Orderly) :
    ∀ m' ∈ ms.set i m, m'.Orderly := by
  intro m' hmem
  rcases List.mem_or_eq_of_mem_set hmem with hold | rfl
  · exact h m' hold
  · exact hm

end Monitor
end EndpointClient
