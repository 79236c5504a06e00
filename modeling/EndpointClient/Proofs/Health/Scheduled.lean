import EndpointClient.Proofs.Health.Change

/-!
# EndpointClient.Proofs.Health.Scheduled

What it means that a monitor is scheduled.

* `Monitor.Kept`: a schedule that the monitor holds was not aborted, and it comes to its end only
  after the monitor was stopped. `Change.kept`: no change breaks that.
* `Monitor.Overreached es`: a schedule was set up among `es` whose first tick is beyond the clock.
  `overreached_run`: no other schedule is beyond it. `broken_of_beyond`: that one breaks down at its
  first turn, `IsBroken.run`: and for good.
* `broken_run`: any other schedule that is broken broke down with a probe of its own.
* `Change.isScheduled`: a monitor stays scheduled unless it is stopped, goes away or is shut down.
* `begins_of_due`: a schedule that is whole begins a probe at its next tick.
* `scheduled_goes_on`: so a monitor that is scheduled goes on probing, unless its schedule broke
  down, or will at its first turn. `isScheduled_of_broken`: either way it is scheduled still.
-/

namespace EndpointClient

/-- The event neither ends a monitor nor breaks its schedule. -/
def MonitorEvent.GoesOn : MonitorEvent → Prop
  | .stop | .drop | .shutdown | .breakDown => False
  | _ => True

namespace Monitor

variable {m m' : Monitor} {now n : Nat} {ev : MonitorEvent}

/-- Whoever holds a schedule has one that was not aborted, and a schedule is stopped only with its
monitor. -/
structure Kept (m : Monitor) : Prop where
  held : m.holdsSchedule = true → ∃ s, m.schedule = some s ∧ s.phase ≠ .aborted
  halted : ∀ s, m.schedule = some s → s.phase = .stopped → m.stopped = true

/-- The schedule was set up with a first tick beyond the clock. -/
def Overreached (m : Monitor) (es : List (Nat × MonitorEvent)) : Prop :=
  ∃ before now clock anchor period after,
    es = before ++ (now, .schedule clock anchor period) :: after ∧
      (m.run before).1.schedule = none ∧ clock.last < anchor + period

/-- The schedule broke down together with a probe that it waited for. -/
def BrokeDown (m : Monitor) (es : List (Nat × MonitorEvent)) : Prop :=
  ∃ before now after n, es = before ++ (now, .breakDown) :: after ∧
    (m.run before).1.scheduled? = some n

/-- The next tick is due, or was taken. -/
def IsDue (m : Monitor) (now : Nat) : Prop :=
  ∀ s, m.schedule = some s → s.phase = .idle → s.next ≤ now

theorem kept_new (t : ProbeTarget) : (new t).Kept :=
  ⟨fun h => (nomatch h), fun _ h => (nomatch h)⟩

theorem Change.kept (h : m.Kept) (hc : m.Change now ev m') : m'.Kept := by
  cases hc with
  | read | check | gaveUp => exact ⟨h.held, h.halted⟩
  | @completed k r hk =>
    have hphase {s : Schedule} : (s.resume k).phase = s.phase ∨ (s.resume k).phase = .idle := by
      unfold Schedule.resume
      split
      · exact .inr rfl
      · exact .inl rfl
    refine ⟨fun hh => ?_, fun s' hs' hp => ?_⟩
    · obtain ⟨s, hs, ha⟩ := h.held hh
      refine ⟨s.resume k, by simp [hs], ?_⟩
      rcases hphase (s := s) with hp | hp
      · rwa [hp]
      · simp [hp]
    · obtain ⟨s, hs, rfl⟩ := Option.map_eq_some_iff.1 hs'
      rcases hphase (s := s) with hp' | hp'
      · exact h.halted s hs (hp' ▸ hp)
      · cases hp'.symm.trans hp
  | @scheduled c anchor period hs =>
    refine ⟨fun _ => ⟨_, rfl, ?_⟩, fun s hs' hp => ?_⟩
    · rcases Schedule.start_phase c anchor period with hp | hp <;> simp [hp]
    · cases hs'
      rcases Schedule.start_phase c anchor period with hp' | hp' <;> cases hp'.symm.trans hp
  | overran hs | ticked hs | began hs | brokeDown hs =>
    refine ⟨fun _ => ⟨_, rfl, nofun⟩, fun s hs' hp => ?_⟩
    cases hs'
    cases hp
  | haltedIdle hs hr | haltedTicked hs hr =>
    exact ⟨fun _ => ⟨_, rfl, nofun⟩, fun _ _ _ => hr⟩
  | stopped | dropped => exact ⟨h.held, fun _ _ _ => rfl⟩
  | shutDown => exact ⟨nofun, fun _ _ _ => rfl⟩
  | abortedProbe hh | abortedWait hh =>
    refine ⟨fun hh' => ?_, fun s hs' hp => ?_⟩
    · cases hh.symm.trans hh'
    · cases hs'
      cases hp

theorem kept_run (t : ProbeTarget) (es : List (Nat × MonitorEvent)) : ((new t).run es).1.Kept :=
  run_induction (fun _ _ _ _ h hc => hc.kept h) (kept_new t) es

/-! ## How a schedule breaks down -/

theorem schedule_of_resume {s : Schedule} {k : Nat}
    (h : m.schedule.map (Schedule.resume · k) = some s) (hp : s.phase ≠ .idle) :
    m.schedule = some s := by
  obtain ⟨s', hs, hresume⟩ := Option.map_eq_some_iff.1 h
  unfold Schedule.resume at hresume
  split at hresume
  · subst hresume
    exact absurd rfl hp
  · rw [hs, hresume]

/-- Nothing but the setting up of a schedule brings one beyond the clock. -/
theorem Change.beyond (hc : m.Change now ev m') (hb : m'.IsBeyond) :
    m.IsBeyond ∨ ∃ clock anchor period, ev = .schedule clock anchor period ∧ m.schedule = none ∧
      clock.last < anchor + period := by
  obtain ⟨period, next, hs'⟩ := hb
  cases hc with
  | read | check | gaveUp | stopped | dropped | shutDown => exact .inl ⟨period, next, hs'⟩
  | completed r hk => exact .inl ⟨period, next, schedule_of_resume hs' nofun⟩
  | @scheduled c anchor p hs =>
    refine .inr ⟨c, anchor, p, rfl, hs, ?_⟩
    have hphase : (Schedule.start c anchor p).phase = .beyond :=
      congrArg Schedule.phase (Option.some.inj hs')
    refine Nat.lt_of_not_le fun hle => ?_
    have hreach : c.reaches (anchor + p) = true := Clock.reaches_iff.2 hle
    simp [Schedule.start, hreach] at hphase
  | overran | ticked | began | haltedIdle | haltedTicked | brokeDown | abortedProbe | abortedWait =>
    cases hs'

/-- A schedule breaks down with its probe, or at its first turn. -/
theorem Change.broken (hc : m.Change now ev m') (hb : m'.IsBroken) :
    m.IsBroken ∨ m.IsBeyond ∨ ev = .breakDown ∧ ∃ n, m.scheduled? = some n := by
  obtain ⟨period, next, hs'⟩ := hb
  cases hc with
  | read | check | gaveUp | stopped | dropped | shutDown => exact .inl ⟨period, next, hs'⟩
  | completed r hk => exact .inl ⟨period, next, schedule_of_resume hs' nofun⟩
  | overran hs => exact .inr (.inl ⟨_, _, hs⟩)
  | brokeDown hs => exact .inr (.inr ⟨rfl, _, scheduled?_iff.2 ⟨_, _, hs⟩⟩)
  | @scheduled c anchor p hs =>
    have hphase : (Schedule.start c anchor p).phase = .broken :=
      congrArg Schedule.phase (Option.some.inj hs')
    rcases Schedule.start_phase c anchor p with hp | hp <;> cases hp.symm.trans hphase
  | ticked | began | haltedIdle | haltedTicked | abortedProbe | abortedWait => cases hs'

theorem Overreached.cons {u : Nat × MonitorEvent} {es : List (Nat × MonitorEvent)}
    (h : (m.step u.1 u.2).1.Overreached es) : m.Overreached (u :: es) := by
  obtain ⟨before, now, clock, anchor, period, after, rfl, hs, hlast⟩ := h
  exact ⟨u :: before, now, clock, anchor, period, after, rfl, hs, hlast⟩

theorem BrokeDown.cons {u : Nat × MonitorEvent} {es : List (Nat × MonitorEvent)}
    (h : (m.step u.1 u.2).1.BrokeDown es) : m.BrokeDown (u :: es) := by
  obtain ⟨before, now, after, n, rfl, hn⟩ := h
  exact ⟨u :: before, now, after, n, rfl, hn⟩

/-- A schedule that is beyond the clock after a run was beyond it when it was set up. -/
theorem overreached_run (es : List (Nat × MonitorEvent)) (hb : (m.run es).1.IsBeyond) :
    m.IsBeyond ∨ m.Overreached es := by
  induction es generalizing m with
  | nil => exact .inl hb
  | cons u es ih =>
    rcases ih (m := (m.step u.1 u.2).1) hb with hhead | htail
    · rcases m.step_change u.1 u.2 with hsame | hc
      · rw [hsame] at hhead
        exact .inl hhead
      · rcases hc.beyond hhead with hm | ⟨clock, anchor, period, hev, hs, hlast⟩
        · exact .inl hm
        · exact .inr ⟨[], u.1, clock, anchor, period, es, by rw [← hev]; rfl, hs, hlast⟩
    · exact .inr htail.cons

/-- A schedule that is broken after a run broke down in it: at its first turn, or with a probe that it
waited for. -/
theorem broken_run (es : List (Nat × MonitorEvent)) (hb : (m.run es).1.IsBroken) :
    m.IsBroken ∨ m.IsBeyond ∨ m.Overreached es ∨ m.BrokeDown es := by
  induction es generalizing m with
  | nil => exact .inl hb
  | cons u es ih =>
    rcases ih (m := (m.step u.1 u.2).1) hb with hhead | hhead | htail | htail
    · rcases m.step_change u.1 u.2 with hsame | hc
      · rw [hsame] at hhead
        exact .inl hhead
      · rcases hc.broken hhead with hm | hm | ⟨hev, n, hn⟩
        · exact .inl hm
        · exact .inr (.inl hm)
        · exact .inr (.inr (.inr ⟨[], u.1, es, n, by rw [← hev]; rfl, hn⟩))
    · rcases overreached_run (m := m) [u] hhead with hm | ⟨before, now, c, a, p, after, hes, h⟩
      · exact .inr (.inl hm)
      · refine .inr (.inr (.inl ⟨before, now, c, a, p, after ++ es, ?_, h⟩))
        rw [← List.singleton_append, hes, List.append_assoc, List.cons_append]
    · exact .inr (.inr (.inl htail.cons))
    · exact .inr (.inr (.inr htail.cons))

/-- A schedule whose first tick is beyond the clock breaks down at its first turn. -/
theorem broken_of_beyond (hb : m.IsBeyond) (now : Nat) :
    ∃ m', m.pollSchedule now = some (m', []) ∧ m'.IsBroken ∧ m'.isScheduled = m.isScheduled ∧
      m'.begun = m.begun := by
  obtain ⟨period, next, hs⟩ := hb
  refine ⟨{ m with schedule := some ⟨period, next, .broken⟩ }, ?_, ⟨period, next, rfl⟩, rfl, rfl⟩
  simp [pollSchedule, takeTick, useTick, hs]

theorem IsBroken.over (hb : m.IsBroken) : m.scheduleIsOver = true := by
  obtain ⟨period, next, hs⟩ := hb
  simp [scheduleIsOver, Schedule.isOver, hs]

theorem IsBroken.step (hb : m.IsBroken) (now : Nat) (ev : MonitorEvent) :
    (m.step now ev).1.IsBroken := by
  have hover : m.scheduleIsOver = true := hb.over
  obtain ⟨period, next, hs⟩ := hb
  refine ⟨period, next, ?_⟩
  cases ev with
  | read =>
    simp only [Monitor.step]
    split <;> exact hs
  | answered n r =>
    simp only [Monitor.step, endProbe]
    split
    · exact hs
    · simp [hs, Schedule.resume]
  | giveUp n => simp [Monitor.step, scheduled?, hs, dropProbe, forget]
  | schedule c anchor p => simp [Monitor.step, hs]
  | takeTick => simp [Monitor.step, takeTick, hs]
  | useTick => simp [Monitor.step, useTick, hs]
  | breakDown => simp [Monitor.step, breakSchedule, hs]
  | expire grace => simp [Monitor.step, hover, hs]
  | check | stop | drop | shutdown => exact hs

theorem IsBroken.run (hb : m.IsBroken) (es : List (Nat × MonitorEvent)) : (m.run es).1.IsBroken := by
  induction es generalizing m with
  | nil => exact hb
  | cons u es ih => exact ih (m := (m.step u.1 u.2).1) (hb.step u.1 u.2)

theorem IsBroken.pollSchedule (hb : m.IsBroken) (now : Nat) : m.pollSchedule now = none := by
  obtain ⟨period, next, hs⟩ := hb
  simp [Monitor.pollSchedule, takeTick, useTick, hs]

theorem isScheduled_iff : m.isScheduled = true ↔ m.holdsSchedule = true ∧ m.stopped = false := by
  simp [isScheduled]

/-! ## A schedule that goes on -/

/-- The schedule of a monitor that is scheduled goes on, or it broke down. -/
theorem Kept.goes_on (h : m.Kept) (hs : m.isScheduled = true) :
    m.scheduleIsOver = false ∨ m.IsBroken := by
  obtain ⟨hheld, hrun⟩ := isScheduled_iff.1 hs
  obtain ⟨s, hsched, habort⟩ := h.held hheld
  obtain ⟨period, next, phase⟩ := s
  cases phase with
  | idle | beyond | ticked | probing =>
    exact .inl (by simp [scheduleIsOver, hsched, Schedule.isOver])
  | stopped => cases hrun.symm.trans (h.halted _ hsched rfl)
  | aborted => exact absurd rfl habort
  | broken => exact .inr ⟨period, next, hsched⟩

theorem Change.isScheduled (hc : m.Change now ev m') (hev : ev.GoesOn)
    (hs : m.isScheduled = true) : m'.isScheduled = true := by
  cases hc with
  | stopped | dropped | shutDown | brokeDown => exact hev.elim
  | scheduled => exact isScheduled_iff.2 ⟨rfl, (isScheduled_iff.1 hs).2⟩
  | abortedProbe hh | abortedWait hh => cases hh.symm.trans (isScheduled_iff.1 hs).1
  | read | check | completed | gaveUp | overran | ticked | began | haltedIdle | haltedTicked =>
    exact hs

/-- A monitor stays scheduled, and its schedule whole, as long as nobody ends the one or breaks the
other. -/
theorem isScheduled_run {es : List (Nat × MonitorEvent)} (hes : ∀ u ∈ es, u.2.GoesOn)
    (hk : m.Kept) (hs : m.isScheduled = true) (hw : ¬ m.IsBeyond) (hb : ¬ m.IsBroken) :
    (m.run es).1.isScheduled = true ∧ ¬ (m.run es).1.IsBeyond ∧ ¬ (m.run es).1.IsBroken := by
  induction es generalizing m with
  | nil => exact ⟨hs, hw, hb⟩
  | cons u es ih =>
    have hu := hes u List.mem_cons_self
    have hes' : ∀ u' ∈ es, u'.2.GoesOn := fun u' hu' => hes u' (List.mem_cons_of_mem u hu')
    rcases m.step_change u.1 u.2 with hsame | hc
    · exact ih (m := (m.step u.1 u.2).1) hes' (by rwa [hsame]) (by rwa [hsame]) (by rwa [hsame])
        (by rwa [hsame])
    · refine ih hes' (hc.kept hk) (hc.isScheduled hu hs) (fun hw' => ?_) (fun hb' => ?_)
      · rcases hc.beyond hw' with hm | ⟨_, _, _, -, hnone, -⟩
        · exact hw hm
        · obtain ⟨s, hsome, -⟩ := hk.held (isScheduled_iff.1 hs).1
          cases hnone.symm.trans hsome
      · rcases hc.broken hb' with hm | hm | ⟨hev, -⟩
        · exact hb hm
        · exact hw hm
        · rw [hev] at hu
          exact hu.elim

/-- A schedule that has no probe in flight begins one when its tick is due. -/
theorem begins_of_due (hr : m.stopped = false) (ho : m.scheduleIsOver = false)
    (hw : ¬ m.IsBeyond) (hn : m.scheduled? = none) (hd : m.IsDue now) :
    ∃ m', m.pollSchedule now = some (m', []) ∧ m'.scheduled? = some m.begun ∧
      m'.inFlight = m.inFlight ++ [⟨m.begun, now⟩] := by
  cases hs : m.schedule with
  | none => simp [scheduleIsOver, hs] at ho
  | some s =>
    obtain ⟨period, next, phase⟩ := s
    cases phase with
    | idle =>
      have hdue : next ≤ now := hd _ hs rfl
      refine ⟨{ (m.beginProbe now).1 with
        schedule := some ⟨period, next + period, .probing m.begun⟩ }, ?_, rfl, rfl⟩
      simp [pollSchedule, takeTick, useTick, hs, hr, hdue, beginProbe]
    | beyond => exact absurd ⟨period, next, hs⟩ hw
    | ticked =>
      refine ⟨{ (m.beginProbe now).1 with
        schedule := some ⟨period, next, .probing m.begun⟩ }, ?_, rfl, rfl⟩
      simp [pollSchedule, takeTick, useTick, hs, hr, beginProbe]
    | probing k => simp [scheduled?, hs] at hn
    | stopped | aborted | broken => simp [scheduleIsOver, Schedule.isOver, hs] at ho

/-- **A monitor that is scheduled goes on probing, unless its schedule broke down.** Whatever has
happened to a monitor that is scheduled: its schedule is not over, or it broke down together with the
engine during one of its probes, or it was set up with a first tick beyond the clock. A schedule
whose first tick is on the clock and that is not over goes on, as long as nobody stops the monitor or
shuts it down and the engine does not break down: the monitor stays scheduled, and whenever its
schedule has no probe in flight, the next tick that is due begins one. A schedule whose first tick is
beyond the clock is over after its first turn, without a word, and begins no probe ever after; its
monitor is as scheduled as before. -/
theorem scheduled_goes_on (t : ProbeTarget) (es : List (Nat × MonitorEvent)) :
    let m := ((new t).run es).1
    (m.isScheduled = true → m.scheduleIsOver = false ∧ ¬ m.IsBeyond ∨
      (new t).BrokeDown es ∨ (new t).Overreached es) ∧
    (m.isScheduled = true → m.scheduleIsOver = false → ¬ m.IsBeyond →
      ∀ es', (∀ u ∈ es', u.2.GoesOn) →
        let m' := (m.run es').1
        m'.isScheduled = true ∧ m'.scheduleIsOver = false ∧
        ∀ now, m'.scheduled? = none → m'.IsDue now →
          ∃ m'', m'.pollSchedule now = some (m'', []) ∧ m''.scheduled? = some m'.begun ∧
            m''.inFlight = m'.inFlight ++ [⟨m'.begun, now⟩]) ∧
    (m.IsBeyond → ∀ now, ∃ m', m.pollSchedule now = some (m', []) ∧
      m'.isScheduled = m.isScheduled ∧ m'.begun = m.begun ∧
      ∀ es', (m'.run es').1.scheduleIsOver = true ∧
        ∀ now', (m'.run es').1.pollSchedule now' = none) := by
  intro m
  have hnew : ¬ (new t).IsBeyond ∧ ¬ (new t).IsBroken := by
    simp [IsBeyond, IsBroken, new]
  refine ⟨fun hs => ?_, fun hs ho hw es' hes' => ?_, fun hb now => ?_⟩
  · by_cases hw : m.IsBeyond
    · exact .inr (.inr ((overreached_run es hw).resolve_left hnew.1))
    · rcases (kept_run t es).goes_on hs with ho | hb
      · exact .inl ⟨ho, hw⟩
      · exact .inr (((broken_run es hb).resolve_left hnew.2).resolve_left hnew.1).symm
  · intro m'
    have hwhole : ¬ m.IsBroken := fun hb => by cases ho.symm.trans hb.over
    obtain ⟨hs', hw', hwhole'⟩ := isScheduled_run hes' (kept_run t es) hs hw hwhole
    have hkept : m'.Kept := run_induction (fun _ _ _ _ h hc => hc.kept h) (kept_run t es) es'
    have ho' : m'.scheduleIsOver = false := (hkept.goes_on hs').resolve_right hwhole'
    exact ⟨hs', ho', fun now hn hd => begins_of_due (isScheduled_iff.1 hs').2 ho' hw' hn hd⟩
  · obtain ⟨m', hpoll, hbroken, hsame, hbegun⟩ := broken_of_beyond hb now
    refine ⟨m', hpoll, hsame, hbegun, fun es' => ?_⟩
    exact ⟨(hbroken.run es').over, (hbroken.run es').pollSchedule⟩

/-- A schedule whose engine breaks down during its probe, and one whose first tick is beyond the
clock. Either is over, and will never begin a probe again, but the monitor is still scheduled. -/
theorem isScheduled_of_broken :
    let m := ((new ⟨"a", .v4 10 0 0 5, ⟨none, [], ['/'], none⟩, none⟩).run [(0, .check),
      (10, .answered 0 (.ok .ok))]).1
    let m₁ := (m.run [(10, .schedule (.ofAge 0) 0 1000), (1000, .takeTick), (1000, .useTick),
      (1000, .breakDown)]).1
    let m₂ := (m.run [(10, .schedule (.ofAge 0) 0 (9223372036854775808 * 1000)), (10, .takeTick)]).1
    (m₁.isScheduled = true ∧ m₁.scheduleIsOver = true ∧ ∀ now, m₁.pollSchedule now = none) ∧
      m₂.isScheduled = true ∧ m₂.scheduleIsOver = true ∧ ∀ now, m₂.pollSchedule now = none :=
  ⟨⟨rfl, rfl, fun _ => rfl⟩, rfl, rfl, fun _ => rfl⟩

end Monitor
end EndpointClient
