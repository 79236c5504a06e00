import EndpointClient.Proofs.Health.LastProbe

/-!
# EndpointClient.Proofs.Health.Stop

A monitor that was stopped, or went away, begins no scheduled probe any more, and lets the one that
is in flight run to its end.

* `Change.stopped_kept`: a monitor stays stopped. `Change.scheduled?_of_stopped`,
  `Change.begun_of_stopped`: the schedule of such a one waits for no other probe than it did, and
  nobody begins a probe but a caller. `idle_for_good`: so one without a probe remains without.
* `MonitorEvent.Spares n ev`: the event neither ends the probe `n` nor tears it down with the
  schedule. `Change.scheduled_kept`: the probe of the schedule stays its probe under such events.
  `scheduled_or_gone_run`: under all others it is done with for good.
* `halts_of_stopped`: the schedule comes to its end at its next turn.
* `stop_final`: all of these from the moment of the stop on, in whatever state it finds the schedule.
-/

namespace EndpointClient

/-- The event neither ends a probe nor tears it down with the schedule. -/
def MonitorEvent.Spares (n : Nat) : MonitorEvent → Prop
  | .answered k _ => k ≠ n
  | .breakDown => False
  | .expire _ => False
  | _ => True

namespace Monitor

variable {m m' : Monitor} {now n : Nat} {ev : MonitorEvent}

theorem Change.stopped_kept (hc : m.Change now ev m') (h : m.stopped = true) :
    m'.stopped = true := by
  cases hc with
  | stopped | dropped | shutDown => rfl
  | read | check | completed | gaveUp | scheduled | overran | ticked | began | haltedIdle
  | haltedTicked | brokeDown | abortedProbe | abortedWait => exact h

/-- The schedule of a stopped monitor waits for no other probe than it did. -/
theorem Change.scheduled?_of_stopped (hc : m.Change now ev m') (h : m.stopped = true)
    (hn : m'.scheduled? = some n) : m.scheduled? = some n := by
  rcases hc.scheduled? hn with ⟨hs, -⟩ | ⟨-, hr, -, -⟩
  · exact hs
  · cases h.symm.trans hr

/-- Nobody begins a probe of a stopped monitor but a caller. -/
theorem Change.begun_of_stopped (hc : m.Change now ev m') (h : m.stopped = true)
    (hb : m'.begun ≠ m.begun) : ev = .read ∨ ev = .check := by
  cases hc with
  | read => exact .inl rfl
  | check => exact .inr rfl
  | began hs hr => cases h.symm.trans hr
  | completed | gaveUp | scheduled | overran | ticked | haltedIdle | haltedTicked | brokeDown
  | stopped | dropped | shutDown | abortedProbe | abortedWait => exact absurd rfl hb

theorem run_of_stopped (h : m.stopped = true) (es : List (Nat × MonitorEvent)) :
    (m.run es).1.stopped = true ∧
      ∀ n, (m.run es).1.scheduled? = some n → m.scheduled? = some n := by
  refine run_induction
    (P := fun m' => m'.stopped = true ∧ ∀ n, m'.scheduled? = some n → m.scheduled? = some n)
    (fun _ _ _ _ hm hc => ?_) ⟨h, fun _ hn => hn⟩ es
  exact ⟨hc.stopped_kept hm.1, fun n hn => hm.2 n (hc.scheduled?_of_stopped hm.1 hn)⟩

/-- Once the schedule of a stopped monitor has no probe, it never has one again. -/
theorem idle_for_good (h : m.stopped = true) (hidle : m.scheduled? = none)
    (es : List (Nat × MonitorEvent)) :
    (m.run es).1.isScheduled = false ∧ (m.run es).1.scheduled? = none ∧
      ∀ later ev, ((m.run es).1.step later ev).1.begun ≠ (m.run es).1.begun →
        ev = .read ∨ ev = .check := by
  obtain ⟨hstopped, hscheduled⟩ := run_of_stopped h es
  refine ⟨by simp [isScheduled, hstopped], ?_, fun later ev hb => ?_⟩
  · cases hn : (m.run es).1.scheduled? with
    | none => rfl
    | some n => cases hidle.symm.trans (hscheduled n hn)
  · rcases (m.run es).1.step_change later ev with hkept | hc
    · exact absurd (congrArg begun hkept) hb
    · exact hc.begun_of_stopped hstopped hb

/-- The probe of the schedule stays its probe, as long as it is spared. -/
theorem Change.scheduled_kept (hc : m.Change now ev m') (hev : ev.Spares n)
    (hn : m.scheduled? = some n) : m'.scheduled? = some n := by
  obtain ⟨period, next, hs⟩ := scheduled?_iff.1 hn
  cases hc with
  | @completed k r hk =>
    have hne : n ≠ k := fun e => hev e.symm
    refine scheduled?_iff.2 ⟨period, next, ?_⟩
    simp [hs, Schedule.resume, hne]
  | brokeDown | abortedProbe | abortedWait => exact hev.elim
  | scheduled hs' | overran hs' | ticked hs' | began hs' | haltedIdle hs' | haltedTicked hs' =>
    cases hs.symm.trans hs'
  | read | check | gaveUp | stopped | dropped | shutDown => exact hn

theorem scheduled_run {es : List (Nat × MonitorEvent)} (hes : ∀ u ∈ es, u.2.Spares n)
    (hn : m.scheduled? = some n) : (m.run es).1.scheduled? = some n := by
  induction es generalizing m with
  | nil => exact hn
  | cons u es ih =>
    refine ih (m := (m.step u.1 u.2).1) (fun u' hu' => hes u' (List.mem_cons_of_mem u hu')) ?_
    rcases m.step_change u.1 u.2 with hsame | hc
    · rwa [hsame]
    · exact hc.scheduled_kept (hes u List.mem_cons_self) hn

/-- The probe of the schedule stays its probe, or it is done with. -/
theorem Change.scheduled_or_gone (hc : m.Change now ev m') (h : m.Orderly)
    (hn : m.scheduled? = some n) :
    m'.scheduled? = some n ∨ n < m'.begun ∧ m'.isInFlight n = false := by
  have hbegun : n < m'.begun :=
    Nat.lt_of_lt_of_le (h.numbered n (h.scheduled n hn)) hc.begun_le
  have hgone : (m.forget n).isInFlight n = false := by simp [isInFlight_forget]
  obtain ⟨period, next, hs⟩ := scheduled?_iff.1 hn
  by_cases hev : ev.Spares n
  · exact .inl (hc.scheduled_kept hev hn)
  · refine .inr ⟨hbegun, ?_⟩
    cases hc with
    | @completed k r hk =>
      have hk : k = n := Decidable.not_not.1 hev
      subst hk
      exact hgone
    | brokeDown hs' | abortedProbe _ hs' =>
      cases hs.symm.trans hs'
      exact hgone
    | abortedWait _ hidle => cases hn.symm.trans hidle
    | read | check | gaveUp | scheduled | overran | ticked | began | haltedIdle | haltedTicked
    | stopped | dropped | shutDown => exact absurd trivial hev

theorem scheduled_or_gone_run (h : m.Orderly) (hn : m.scheduled? = some n)
    (es : List (Nat × MonitorEvent)) : (m.run es).1.scheduled? = some n ∨
      n < (m.run es).1.begun ∧ (m.run es).1.isInFlight n = false := by
  induction es generalizing m with
  | nil => exact .inl hn
  | cons u es ih =>
    rcases m.step_change u.1 u.2 with hsame | hc
    · rw [run_cons, hsame]
      exact ih h hn
    · rcases hc.scheduled_or_gone h hn with hkept | ⟨hb, hout⟩
      · exact ih (hc.orderly h) hkept
      · exact .inr (gone_run hb hout es)

/-- The probe of the schedule ends with its result, and leaves the schedule without a probe. -/
theorem step_answered (h : m.Orderly) (hn : m.scheduled? = some n) (now : Nat) (r : ProbeResult) :
    (m.step now (.answered n r)).1.state = r.state ∧
      (m.step now (.answered n r)).1.scheduled? = none ∧
      (m.step now (.answered n r)).2.results = [r] := by
  have hflight := h.scheduled n hn
  have hcompletes : m.completion? (.answered n r) = some (n, r) := by simp [completion?, hflight]
  obtain ⟨hstate, -, hresults⟩ := step_completed hcompletes now
  refine ⟨hstate, ?_, hresults⟩
  obtain ⟨period, next, hs⟩ := scheduled?_iff.1 hn
  obtain ⟨p, hp⟩ := find?_of_isInFlight hflight
  rw [step, endProbe_of_inFlight hp]
  simp [scheduled?, hs, Schedule.resume]

/-- A schedule that was stopped, and has no probe in flight, comes to its end at its next turn, and
says so unless it breaks down then. -/
theorem halts_of_stopped (h : m.stopped = true) (ho : m.scheduleIsOver = false)
    (hn : m.scheduled? = none) : ∃ turn, (turn = .takeTick ∨ turn = .useTick) ∧ ∀ now,
      (m.step now turn).1.scheduleIsOver = true ∧
        (¬ m.IsBeyond → (m.step now turn).2 = [.scheduleStopped m.target]) := by
  cases hs : m.schedule with
  | none => simp [scheduleIsOver, hs] at ho
  | some s =>
    obtain ⟨period, next, phase⟩ := s
    cases phase with
    | idle =>
      refine ⟨.takeTick, .inl rfl, fun now => ?_⟩
      simp [step, takeTick, hs, h, haltSchedule, scheduleIsOver, Schedule.isOver]
    | beyond =>
      refine ⟨.takeTick, .inl rfl, fun now => ⟨?_, fun hb => absurd ⟨period, next, hs⟩ hb⟩⟩
      simp [step, takeTick, hs, scheduleIsOver, Schedule.isOver]
    | ticked =>
      refine ⟨.useTick, .inr rfl, fun now => ?_⟩
      simp [step, useTick, hs, h, haltSchedule, scheduleIsOver, Schedule.isOver]
    | probing k => simp [scheduled?, hs] at hn
    | stopped | aborted | broken => simp [scheduleIsOver, Schedule.isOver, hs] at ho

/-- Stopping, as going away, leaves everything as it is but that the monitor is stopped. -/
theorem step_stop (hev : ev = .stop ∨ ev = .drop) (m : Monitor) (now : Nat) :
    m.step now ev = ({ m with stopped := true }, []) := by
  rcases hev with rfl | rfl <;> rfl

/-- **To stop is final for the schedule, and harmless to its probe.** Let a monitor be stopped, or go
away, at any moment: before the first turn of its schedule, while that waits for a tick, with a tick
taken but not used, with ticks overdue, or during a probe. That changes nothing but that it is
stopped. From then on the schedule begins no probe, however much time passes and whatever happens;
whoever does is a caller. A schedule without a probe in flight comes to its end at its next turn, and
that is logged unless the turn is its first and breaks it. A scheduled probe in flight stays so until
it ends, is aborted by a shutdown or breaks down, and when it ends its result is stored and logged. To
stop once more changes nothing. -/
theorem stop_final (t : ProbeTarget) (es : List (Nat × MonitorEvent)) (ev : MonitorEvent)
    (hev : ev = .stop ∨ ev = .drop) (now : Nat) (es' : List (Nat × MonitorEvent)) :
    let m := ((new t).run es).1
    let m' := ((m.step now ev).1.run es').1
    m.step now ev = ({ m with stopped := true }, []) ∧
    (∀ n, m'.scheduled? = some n → m.scheduled? = some n) ∧
    (∀ later ev', (m'.step later ev').1.begun ≠ m'.begun → ev' = .read ∨ ev' = .check) ∧
    (m'.scheduleIsOver = false → m'.scheduled? = none →
      ∃ turn, (turn = .takeTick ∨ turn = .useTick) ∧ ∀ later,
        (m'.step later turn).1.scheduleIsOver = true ∧
          (¬ m'.IsBeyond → (m'.step later turn).2 = [.scheduleStopped m'.target])) ∧
    (∀ n, m.scheduled? = some n → (∀ u ∈ es', u.2.Spares n) →
      m'.scheduled? = some n ∧ m'.isInFlight n = true ∧ ∀ later r,
        (m'.step later (.answered n r)).1.state = r.state ∧
          (m'.step later (.answered n r)).1.scheduled? = none ∧
          (m'.step later (.answered n r)).2.results = [r]) ∧
    ∀ later ev', ev' = .stop ∨ ev' = .drop → m'.step later ev' = (m', []) := by
  intro m m'
  have hstop := step_stop hev m now
  have hstopped : (m.step now ev).1.stopped = true := by rw [hstop]
  have hsame : (m.step now ev).1.scheduled? = m.scheduled? := by rw [hstop]; rfl
  obtain ⟨hstopped', hscheduled⟩ := run_of_stopped hstopped es'
  have horderly : m'.Orderly := (((orderly_new t).run es).step now ev).run es'
  refine ⟨hstop, fun n hn => hsame ▸ hscheduled n hn, fun later ev' hb => ?_,
    halts_of_stopped hstopped', fun n hn hes' => ?_, fun later ev' hev' => ?_⟩
  · rcases m'.step_change later ev' with hkept | hc
    · exact absurd (congrArg begun hkept) hb
    · exact hc.begun_of_stopped hstopped' hb
  · have hn' : m'.scheduled? = some n := scheduled_run hes' (hsame.trans hn)
    exact ⟨hn', horderly.scheduled n hn', step_answered horderly hn'⟩
  · rw [step_stop hev', ← hstopped']

/-- A monitor is stopped during a scheduled probe, with two ticks overdue. The probe ends long after
that, and the schedule with it. -/
theorem stop_final_probing :
    let es : List (Nat × MonitorEvent) := [(0, .check), (10, .answered 0 (.ok .ok)),
      (10, .schedule (.ofAge 0) 0 100), (100, .takeTick), (100, .useTick)]
    let m := ((new ⟨"a", .v4 10 0 0 5, ⟨none, [], ['/'], none⟩, none⟩).run es).1
    let m' := ((m.step 350 .stop).1.run [(400, .takeTick), (400, .useTick)]).1
    m.scheduled? = some 1 ∧ m'.scheduled? = some 1 ∧
      ∀ later, (m'.step later (.answered 1 (.error .cancelled))).1.state = .unhealthy := by
  intro es m m'
  obtain ⟨-, -, -, -, hprobe, -⟩ := stop_final ⟨"a", .v4 10 0 0 5, ⟨none, [], ['/'], none⟩, none⟩ es
    .stop (.inl rfl) 350 [(400, .takeTick), (400, .useTick)]
  obtain ⟨hscheduled, -, hended⟩ := hprobe 1 rfl (by simp [MonitorEvent.Spares])
  exact ⟨rfl, hscheduled, fun later => (hended later (.error .cancelled)).1⟩

/-- It is stopped between a tick that was taken and the use of it. -/
example (t : ProbeTarget) : ((new t).run [(0, .check), (10, .answered 0 (.ok .ok)),
    (10, .schedule (.ofAge 0) 0 100), (100, .takeTick), (100, .stop), (100, .useTick)]).2 =
      [.scheduleStopped t, .scheduleStarted t (.ofMillis 100),
        .probed ⟨t, .ok .ok, .ofMillis 10⟩] := rfl

end Monitor
end EndpointClient
