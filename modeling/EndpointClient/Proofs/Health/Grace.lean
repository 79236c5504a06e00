import EndpointClient.Proofs.Health.Shutdown

/-!
# EndpointClient.Proofs.Health.Grace

The shutdown of one monitor, next to callers that go on to use it.

* `Closing` is a monitor on its way out at a time. `Closing.Step` is what its schedule, its scheduled
  probe, its shutdown and the time do. Callers may do something at any time in between
  (`MonitorEvent.OfCaller`).
* `Monitor.SameCourse`: two monitors with the same schedule, whatever probes of callers they have in
  flight. A shutdown goes the same way with both.
* `Closing.Follows`: a shutdown with callers goes along with one that has none (`Leaving`).
  `Follows.turn`, `Follows.answer`: each turn of the one is a turn of the other, and
  `Follows.call`: callers change nothing of that. `OnCourse.step` is what that makes of `Leaving.Stage`.
* `Monitor.Out`: the schedule is over and given up, so that there is nothing left to shut down.
* `shutdown_within_grace`: a shutdown returns with the scheduled probe in flight, or when the grace is
  over.
-/

namespace EndpointClient

/-- The event is of a caller, or ends the probe of one. -/
def MonitorEvent.OfCaller (m : Monitor) : MonitorEvent → Prop
  | .read => True
  | .check => True
  | .answered n _ => m.scheduled? ≠ some n
  | .giveUp _ => True
  | .stop => True
  | _ => False

/-- A monitor on its way out at a time, with what has happened since that began, and the probes that
have completed, the earliest first. -/
structure Closing where
  now : Nat
  monitor : Monitor
  shutdown : MonitorShutdown
  journal : Journal
  completed : List (Nat × ProbeResult)

namespace Closing

def start (x : Monitored) (grace now : Nat) : Closing :=
  let l := x.leave grace now
  ⟨now, l.monitor, l.shutdown, l.journal, []⟩

def isOver (s : Closing) : Bool := s.shutdown.isOver

def event (s : Closing) (ev : MonitorEvent) : Closing :=
  { s with
    monitor := (s.monitor.step s.now ev).1
    journal := (s.monitor.step s.now ev).2 ++ s.journal
    completed := s.completed ++ (s.monitor.completion? ev).toList }

/-- The schedule goes on, its probe ends, or the shutdown goes on. -/
inductive Turn (x : Monitored) (s : Closing) : Closing → Prop where
  | schedule {m : Monitor} {j : Journal} (h : s.monitor.pollSchedule s.now = some (m, j)) :
      Turn x s { s with monitor := m, journal := j ++ s.journal }
  | ended {n : Nat} {f : ProbeFate} (hn : s.monitor.scheduled? = some n) (hf : x.fate = some f)
      (hd : f.time ≤ s.now) : Turn x s (s.event (f.event n))
  | shutdown {a : MonitorShutdown} {m : Monitor} {j : Journal}
      (h : s.shutdown.advance s.now s.monitor = some (a, m, j)) :
      Turn x s { s with monitor := m, shutdown := a, journal := j ++ s.journal }

/-- There is a turn, or time passes since there is none. -/
inductive Step (x : Monitored) (s : Closing) : Closing → Prop where
  | turn {s' : Closing} (ho : s.isOver = false) (ht : s.Turn x s') : Step x s s'
  | tick (ho : s.isOver = false) (hq : ∀ s', ¬ s.Turn x s') : Step x s { s with now := s.now + 1 }

/-- A run with the number of its steps, not counting what callers do. -/
inductive Run (x : Monitored) (s : Closing) : Nat → Closing → Prop where
  | refl : Run x s 0 s
  | step {n : Nat} {s' s'' : Closing} (h : Run x s n s') (hs : s'.Step x s'') : Run x s (n + 1) s''
  | call {n : Nat} {s' : Closing} (h : Run x s n s') (ho : s'.isOver = false) {ev : MonitorEvent}
      (hev : ev.OfCaller s'.monitor) : Run x s n (s'.event ev)

end Closing

/-! ## What a shutdown goes by -/

/-- Two monitors that differ in their probes at most. -/
structure Monitor.SameCourse (m k : Monitor) : Prop where
  target : k.target = m.target
  schedule : k.schedule = m.schedule
  stopped : k.stopped = m.stopped
  holds : k.holdsSchedule = m.holdsSchedule

namespace Monitor

variable {m m' k : Monitor} {now n : Nat} {ev : MonitorEvent} {f : ProbeFate}

theorem completion?_fate (hn : m.isInFlight n = true) (f : ProbeFate) :
    m.completion? (f.event n) = f.result.map (n, ·) := by
  obtain ⟨time, result⟩ := f
  cases result with
  | none => rfl
  | some r => simp [ProbeFate.event, completion?, hn]

theorem results_fate (hn : m.isInFlight n = true) (f : ProbeFate) (now : Nat) :
    (m.step now (f.event n)).2.results = f.result.toList := by
  have hcomplete := completion?_fate hn f
  cases hr : f.result with
  | none =>
    rw [hr] at hcomplete
    exact results_step hcomplete now
  | some r =>
    rw [hr] at hcomplete
    exact (step_completed hcomplete now).2.2

/-- A probe is aborted only when the time runs out for a schedule that is not over. -/
theorem aborted_step (h : m.scheduleIsOver = true ∨ ∀ grace, ev ≠ .expire grace) (now : Nat) :
    (m.step now ev).2.aborted = [] := by
  cases ev with
  | answered n r =>
    simp only [step, endProbe]
    split <;> rfl
  | schedule c anchor period =>
    simp only [step]
    split <;> rfl
  | takeTick =>
    simp only [step, takeTick]
    split
    · rfl
    · split
      · rfl
      · split <;> rfl
    · rfl
  | useTick =>
    simp only [step, useTick]
    split
    · split <;> rfl
    · rfl
  | expire grace =>
    rcases h with ho | hne
    · simp [step, ho, Journal.aborted]
    · exact absurd rfl (hne grace)
  | read | check | giveUp | breakDown | stop | drop | shutdown => rfl

namespace SameCourse

theorem symm (h : m.SameCourse k) : k.SameCourse m :=
  ⟨h.target.symm, h.schedule.symm, h.stopped.symm, h.holds.symm⟩

theorem trans {k' : Monitor} (h : m.SameCourse k) (h' : k.SameCourse k') : m.SameCourse k' :=
  ⟨h'.target.trans h.target, h'.schedule.trans h.schedule, h'.stopped.trans h.stopped,
    h'.holds.trans h.holds⟩

theorem scheduled?_eq (h : m.SameCourse k) : k.scheduled? = m.scheduled? := by
  unfold scheduled?
  rw [h.schedule]

theorem over_eq (h : m.SameCourse k) : k.scheduleIsOver = m.scheduleIsOver := by
  unfold scheduleIsOver
  rw [h.schedule]

theorem poll (h : m.SameCourse k) (hstop : m.stopped = true) {j : Journal}
    (hp : m.pollSchedule now = some (m', j)) :
    ∃ k', k.pollSchedule now = some (k', j) ∧ m'.SameCourse k' := by
  have hstop' := h.stopped.trans hstop
  cases hs : m.schedule with
  | none => simp [pollSchedule, takeTick, useTick, hs] at hp
  | some u =>
    obtain ⟨period, next, phase⟩ := u
    rw [pollSchedule_halts hstop hs] at hp
    rw [pollSchedule_halts hstop' (h.schedule.trans hs)]
    by_cases hb : phase = .beyond
    · rw [if_pos hb] at hp ⊢
      cases hp
      exact ⟨_, rfl, ⟨h.target, rfl, h.stopped, h.holds⟩⟩
    · rw [if_neg hb] at hp ⊢
      rw [Option.ite_none_right_eq_some] at hp
      obtain ⟨hwaits, heq⟩ := hp
      cases heq
      refine ⟨(k.haltSchedule period next).1, ?_, h.target, rfl, h.stopped, h.holds⟩
      rw [if_pos hwaits, haltSchedule, h.target]

theorem abort (h : m.SameCourse k) : m.abortSchedule.SameCourse k.abortSchedule := by
  unfold abortSchedule
  rw [h.schedule]
  split
  · exact ⟨h.target, rfl, h.stopped, h.holds⟩
  · exact ⟨h.target, rfl, h.stopped, h.holds⟩
  · exact ⟨h.target, rfl, h.stopped, h.holds⟩
  · exact ⟨h.target, rfl, h.stopped, h.holds⟩
  · exact h

theorem advance (h : m.SameCourse k) {a a' : MonitorShutdown} {j : Journal}
    (ha : a.advance now m = some (a', m', j)) :
    ∃ k', a.advance now k = some (a', k', j) ∧ m'.SameCourse k' := by
  obtain ⟨grace, phase⟩ := a
  cases phase with
  | fresh =>
    simp only [MonitorShutdown.advance, MonitorShutdown.begin_eq, h.holds] at ha ⊢
    cases ha
    exact ⟨_, rfl, h.target, h.schedule, rfl, rfl⟩
  | waiting deadline =>
    cases ho : m.scheduleIsOver with
    | true =>
      cases (MonitorShutdown.advance_of_over ho grace deadline now).symm.trans ha
      exact ⟨k, MonitorShutdown.advance_of_over (h.over_eq.trans ho) grace deadline now, h⟩
    | false =>
      rw [MonitorShutdown.advance_of_held ho, Option.ite_none_right_eq_some] at ha
      obtain ⟨hdue, heq⟩ := ha
      cases heq
      refine ⟨k.abortSchedule, ?_, h.abort⟩
      rw [MonitorShutdown.advance_of_held (h.over_eq.trans ho), if_pos hdue, endShutdown, h.target]
  | ended => cases ha

theorem fate (h : m.SameCourse k) (hn : m.scheduled? = some n) (hm : m.isInFlight n = true)
    (hk : k.isInFlight n = true) (f : ProbeFate) (now : Nat) :
    (m.step now (f.event n)).1.SameCourse (k.step now (f.event n)).1 := by
  obtain ⟨period, next, hs⟩ := scheduled?_iff.1 hn
  have hs' := h.schedule.trans hs
  obtain ⟨time, result⟩ := f
  cases result with
  | none =>
    simp only [ProbeFate.event, Option.elim_none, step, breakSchedule, hs, hs']
    exact ⟨h.target, rfl, h.stopped, h.holds⟩
  | some r =>
    obtain ⟨p, hp⟩ := find?_of_isInFlight hm
    obtain ⟨q, hq⟩ := find?_of_isInFlight hk
    simp only [ProbeFate.event, Option.elim_some, step, endProbe_of_inFlight hp,
      endProbe_of_inFlight hq]
    exact ⟨h.target, congrArg (Option.map (Schedule.resume · n)) h.schedule, h.stopped, h.holds⟩

theorem ofCaller (hstop : m.stopped = true) (hev : ev.OfCaller m) (now : Nat) :
    m.SameCourse (m.step now ev).1 := by
  rcases m.step_change now ev with hsame | hc
  · rw [hsame]
    exact ⟨rfl, rfl, rfl, rfl⟩
  · generalize (m.step now ev).1 = m' at hc
    cases hc with
    | read | check | gaveUp => exact ⟨rfl, rfl, rfl, rfl⟩
    | completed => exact ⟨rfl, schedule_resume_of_ne hev, rfl, rfl⟩
    | stopped => exact ⟨rfl, rfl, hstop.symm, rfl⟩
    | scheduled | overran | ticked | began | haltedIdle | haltedTicked | brokeDown | dropped
    | shutDown | abortedProbe | abortedWait => exact hev.elim

end SameCourse

/-! ## Parts of a shutdown as runs -/

theorem completed_of_unanswered {es : List (Nat × MonitorEvent)}
    (h : ∀ u ∈ es, ∀ n r, u.2 ≠ .answered n r) : m.completed es = [] := by
  induction es generalizing m with
  | nil => rfl
  | cons u es ih =>
    have hnone : m.completion? u.2 = none := by
      cases hc : m.completion? u.2 with
      | none => rfl
      | some c => exact absurd (completion?_eq_some hc).1 (h u List.mem_cons_self c.1 c.2)
    rw [completed, hnone]
    exact ih fun u' hu' => h u' (List.mem_cons_of_mem u hu')

theorem unanswered_of_pollSchedule {j : Journal} (hp : m.pollSchedule now = some (m', j)) :
    ∃ es, m.run es = (m', j) ∧ m.completed es = [] := by
  obtain ⟨turns, hturns, hrun⟩ := run_of_pollSchedule hp
  refine ⟨turns.map (now, ·), hrun, completed_of_unanswered fun u hu n r he => ?_⟩
  obtain ⟨ev, hev, rfl⟩ := List.mem_map.1 hu
  rcases hturns ev hev with rfl | rfl <;> cases he

theorem unanswered_of_advance (hh : m.holdsSchedule = false) {a a' : MonitorShutdown} {j : Journal}
    (ha : a.advance now m = some (a', m', j)) :
    ∃ es, m.run es = (m', j) ∧ m.completed es = [] := by
  obtain ⟨grace, phase⟩ := a
  cases phase with
  | fresh =>
    simp only [MonitorShutdown.advance, MonitorShutdown.begin_eq] at ha
    cases ha
    exact ⟨[(now, .shutdown)], rfl, rfl⟩
  | waiting deadline =>
    cases ho : m.scheduleIsOver with
    | true =>
      cases (MonitorShutdown.advance_of_over ho grace deadline now).symm.trans ha
      exact ⟨[], rfl, rfl⟩
    | false =>
      rw [MonitorShutdown.advance_of_held ho, Option.ite_none_right_eq_some] at ha
      obtain ⟨-, heq⟩ := ha
      cases heq
      exact ⟨[(now, .expire grace)], by simp [run, step, hh, ho, endShutdown], rfl⟩
  | ended => cases ha

/-! ## After a shutdown -/

/-- The monitor is stopped, and its schedule is over and given up. -/
structure Out (m : Monitor) : Prop where
  stopped : m.stopped = true
  given : m.holdsSchedule = false
  finished : m.scheduleIsOver = true

theorem Out.idle (h : m.Out) : m.scheduled? = none := by
  cases hn : m.scheduled? with
  | none => rfl
  | some n => cases (not_over_of_probing hn).symm.trans h.finished

theorem Change.out (hc : m.Change now ev m') (h : m.Out)
    (hev : ∀ c anchor period, ev ≠ .schedule c anchor period) : m'.Out := by
  have hover := h.finished
  cases hc with
  | read | check | gaveUp => exact ⟨h.stopped, h.given, hover⟩
  | stopped | dropped => exact ⟨rfl, h.given, hover⟩
  | shutDown => exact ⟨rfl, rfl, hover⟩
  | @completed n r hn =>
    have hfree : m.scheduled? ≠ some n := by simp [h.idle]
    refine ⟨h.stopped, h.given, ?_⟩
    rw [scheduleIsOver] at hover ⊢
    rwa [schedule_resume_of_ne hfree]
  | @scheduled c anchor period => exact absurd rfl (hev c anchor period)
  | abortedWait => exact ⟨h.stopped, h.given, rfl⟩
  | overran hs | ticked hs | began hs | haltedIdle hs | haltedTicked hs | brokeDown hs
  | abortedProbe _ hs => simp [scheduleIsOver, Schedule.isOver, hs] at hover

theorem Out.step (h : m.Out) (hev : ∀ c anchor period, ev ≠ .schedule c anchor period)
    (now : Nat) : (m.step now ev).1.Out := by
  rcases m.step_change now ev with hsame | hc
  · rwa [hsame]
  · exact hc.out h hev

/-- Nothing is left to be shut down, and nothing is aborted any more. -/
theorem Out.run (h : m.Out) {es : List (Nat × MonitorEvent)}
    (hes : ∀ u ∈ es, ∀ c anchor period, u.2 ≠ .schedule c anchor period) :
    (m.run es).1.Out ∧ (m.run es).2.aborted = [] := by
  induction es generalizing m with
  | nil => exact ⟨h, rfl⟩
  | cons u es ih =>
    obtain ⟨hout, hnone⟩ := ih (h.step (hes u List.mem_cons_self) u.1)
      fun u' hu' => hes u' (List.mem_cons_of_mem u hu')
    refine ⟨hout, ?_⟩
    show Journal.aborted (((m.step u.1 u.2).1.run es).2 ++ (m.step u.1 u.2).2) = []
    rw [Journal.aborted_append, hnone, aborted_step (.inl h.finished)]
    rfl

/-- A further shutdown is over at once, and changes nothing. -/
theorem Out.advance (h : m.Out) (grace now : Nat) :
    (MonitorShutdown.start grace).advance now m = some (⟨grace, .ended⟩, m, []) := by
  have hsame : m.beginShutdown.1 = m := by
    obtain ⟨target, flag, begun, inFlight, stopped, schedule, holdsSchedule⟩ := m
    cases h.stopped
    cases h.given
    rfl
  simp [MonitorShutdown.advance, MonitorShutdown.start, MonitorShutdown.begin_eq, h.given, hsame]

end Monitor

/-! ## Along with a shutdown without callers -/

namespace Leaving

variable {grace start now n : Nat} {x : Monitored} {l : Leaving}

theorem Stage.stopped (h : Stage grace start now x l) :
    l.monitor.stopped = true ∧ l.monitor.holdsSchedule = false := by
  cases h with
  | probing => exact ⟨rfl, rfl⟩
  | halting hx | halted hx | done hx => exact ⟨hx.stopped, hx.given⟩

theorem Stage.finished (h : Stage grace start now x l) (ho : l.shutdown.isOver = true) :
    l.monitor.scheduleIsOver = true := by
  cases h with
  | done _ hover => exact hover
  | probing | halting | halted => cases ho

theorem Stage.scheduled (h : Stage grace start now x l) (hx : x.monitor.Orderly)
    (hn : l.monitor.scheduled? = some n) :
    x.monitor.scheduled? = some n ∧ l.monitor.isInFlight n = true := by
  cases h with
  | probing => exact ⟨hn, hx.scheduled n hn⟩
  | halting hx | halted hx | done hx => cases hx.idle.symm.trans hn

end Leaving

namespace Closing

variable {grace start n : Nat} {x : Monitored} {s s' : Closing} {l l' : Leaving}

/-- What has happened is a run of the monitor. -/
def Traced (x : Monitored) (s : Closing) : Prop :=
  ∃ es, (x.monitor.run es).1 = s.monitor ∧ (x.monitor.run es).2 = s.journal ∧
    x.monitor.completed es = s.completed

theorem Traced.extend (h : s.Traced x) (es : List (Nat × MonitorEvent)) (now : Nat)
    (a : MonitorShutdown) : Traced x ⟨now, (s.monitor.run es).1, a,
      (s.monitor.run es).2 ++ s.journal, s.completed ++ s.monitor.completed es⟩ := by
  obtain ⟨es₀, hm, hj, hdone⟩ := h
  refine ⟨es₀ ++ es, ?_, ?_, ?_⟩
  · rw [Monitor.run_append, hm]
  · rw [Monitor.run_append_journal, hm, hj]
  · rw [Monitor.completed_append, hm, hdone]

theorem Traced.event (h : s.Traced x) (ev : MonitorEvent) : (s.event ev).Traced x := by
  have hextended := h.extend [(s.now, ev)] s.now s.shutdown
  rwa [Monitor.completed, Monitor.completed, List.append_nil] at hextended

theorem Traced.orderly (h : s.Traced x) (hx : x.monitor.Orderly) : s.monitor.Orderly := by
  obtain ⟨es, hm, -⟩ := h
  rw [← hm]
  exact hx.run es

theorem Traced.scheduled_or_gone (h : s.Traced x) (hx : x.monitor.Orderly)
    (hn : x.monitor.scheduled? = some n) : s.monitor.scheduled? = some n ∨
      n < s.monitor.begun ∧ s.monitor.isInFlight n = false := by
  obtain ⟨es, hm, -⟩ := h
  rw [← hm]
  exact Monitor.scheduled_or_gone_run hx hn es

/-- A shutdown goes along with one that has no callers. -/
structure Follows (x : Monitored) (s : Closing) (l : Leaving) : Prop where
  traced : s.Traced x
  same : l.monitor.SameCourse s.monitor
  shutdown : s.shutdown = l.shutdown
  aborted : s.journal.aborted = l.journal.aborted
  own : ∀ n, x.monitor.scheduled? = some n →
    (s.completed.filter (·.1 = n)).map (·.2) = l.journal.results.reverse

/-- Both go on alike, without completing a probe. -/
theorem Follows.silent (h : s.Follows x l) {es : List (Nat × MonitorEvent)} {m k : Monitor}
    {j : Journal} (hrun : s.monitor.run es = (m, j)) (hdone : s.monitor.completed es = [])
    (hsame : k.SameCourse m) (a : MonitorShutdown) :
    Follows x { s with monitor := m, shutdown := a, journal := j ++ s.journal }
      { l with monitor := k, shutdown := a, journal := j ++ l.journal } where
  traced := by
    have htraced := h.traced.extend es s.now a
    rwa [hrun, hdone, List.append_nil] at htraced
  same := hsame
  shutdown := rfl
  aborted := by simp only [Journal.aborted_append, h.aborted]
  own n hn := by
    have hnone : j.results = [] := by
      have hresults := s.monitor.results_run es
      rw [hrun, hdone] at hresults
      simpa using hresults
    simp only [Journal.results_append, hnone, List.nil_append]
    exact h.own n hn

theorem Follows.ended (h : s.Follows x l) (hn : l.monitor.scheduled? = some n)
    (hown : x.monitor.scheduled? = some n) (hl : l.monitor.isInFlight n = true)
    (hs : s.monitor.isInFlight n = true) (f : ProbeFate) :
    Follows x (s.event (f.event n))
      { l with
        monitor := (l.monitor.step s.now (f.event n)).1
        journal := (l.monitor.step s.now (f.event n)).2 ++ l.journal } where
  traced := h.traced.event (f.event n)
  same := h.same.fate hn hl hs f s.now
  shutdown := h.shutdown
  aborted := by
    have hno : ∀ grace, f.event n ≠ .expire grace := by
      obtain ⟨time, result⟩ := f
      cases result <;> nofun
    simp only [event, Journal.aborted_append, Monitor.aborted_step (.inr hno), h.aborted]
  own k hk := by
    cases hown.symm.trans hk
    have hcomplete := Monitor.completion?_fate hs f
    have hresults := Monitor.results_fate hl f s.now
    simp only [event, hcomplete, hresults, Journal.results_append, List.filter_append,
      List.map_append, List.reverse_append, h.own n hown]
    cases f.result <;> simp

theorem Follows.call (h : s.Follows x l) (hx : x.monitor.Orderly) (hstop : s.monitor.stopped = true)
    {ev : MonitorEvent} (hev : ev.OfCaller s.monitor) : (s.event ev).Follows x l where
  traced := h.traced.event ev
  same := h.same.trans (.ofCaller hstop hev s.now)
  shutdown := h.shutdown
  aborted := by
    have hno : ∀ grace, ev ≠ .expire grace := by
      rintro grace rfl
      exact hev
    simp only [event, Journal.aborted_append, Monitor.aborted_step (.inr hno), List.nil_append,
      h.aborted]
  own n hn := by
    -- the scheduled probe is still the one of the schedule, or it is done with
    have hother : ∀ c, s.monitor.completion? ev = some c → c.1 ≠ n := by
      rintro ⟨k, r⟩ hc rfl
      obtain ⟨rfl, hflight⟩ := Monitor.completion?_eq_some hc
      rcases h.traced.scheduled_or_gone hx hn with hkept | ⟨-, hgone⟩
      · exact hev hkept
      · cases hflight.symm.trans hgone
    have hnone : (s.monitor.completion? ev).toList.filter (·.1 = n) = [] := by
      cases hc : s.monitor.completion? ev with
      | none => rfl
      | some c => simp [hother c hc]
    simp only [event, List.filter_append, hnone, List.append_nil]
    exact h.own n hn

theorem Follows.turn (h : s.Follows x l) (hx : x.monitor.Orderly)
    (hstage : Leaving.Stage grace start s.now x l) (ht : s.Turn x s') :
    ∃ l', l.Turn s.now l' ∧ s'.Follows x l' := by
  obtain ⟨hstop, hheld⟩ := hstage.stopped
  cases ht with
  | schedule hp =>
    obtain ⟨es, hrun, hdone⟩ := Monitor.unanswered_of_pollSchedule hp
    obtain ⟨k, hk, hsame⟩ := h.same.symm.poll (h.same.stopped.trans hstop) hp
    refine ⟨_, .schedule hk, ?_⟩
    have hfollows := h.silent hrun hdone hsame.symm l.shutdown
    rwa [← h.shutdown] at hfollows ⊢
  | @ended n f hn hf hd =>
    have hn' : l.monitor.scheduled? = some n := h.same.scheduled?_eq.symm.trans hn
    obtain ⟨hown, hflight⟩ := hstage.scheduled hx hn'
    have hflight' := (h.traced.orderly hx).scheduled n hn
    have horigin : l.origin = x := hstage.origin_eq
    refine ⟨_, .ended hn' (horigin ▸ hf) hd, ?_⟩
    exact h.ended hn' hown hflight hflight' f
  | shutdown ha =>
    obtain ⟨es, hrun, hdone⟩ := Monitor.unanswered_of_advance (h.same.holds.trans hheld) ha
    obtain ⟨k, hk, hsame⟩ := h.same.symm.advance ha
    rw [h.shutdown] at hk
    exact ⟨_, .shutdown hk, h.silent hrun hdone hsame.symm _⟩

/-- There is a turn whenever there would be one without callers. -/
theorem Follows.answer (h : s.Follows x l) (hstage : Leaving.Stage grace start s.now x l)
    (ht : l.Turn s.now l') : ∃ s', s.Turn x s' := by
  have horigin : l.origin = x := hstage.origin_eq
  cases ht with
  | schedule hp =>
    obtain ⟨k, hk, -⟩ := h.same.poll hstage.stopped.1 hp
    exact ⟨_, .schedule hk⟩
  | ended hn hf hd => exact ⟨_, .ended (h.same.scheduled?_eq.trans hn) (horigin ▸ hf) hd⟩
  | shutdown ha =>
    obtain ⟨k, hk, -⟩ := h.same.advance ha
    exact ⟨_, .shutdown (h.shutdown ▸ hk)⟩

/-- The shutdown is where it would be without callers, and not behind its time. -/
structure OnCourse (grace start : Nat) (x : Monitored) (s : Closing) (l : Leaving) : Prop where
  stage : Leaving.Stage grace start s.now x l
  follows : s.Follows x l
  inTime : s.now ≤ start + x.wait grace start

/-- What is left to be done, turns and time. -/
def rank (grace start : Nat) (x : Monitored) (s : Closing) (l : Leaving) : Nat :=
  l.turnsLeft + (start + x.wait grace start - s.now)

theorem onCourse_start (hg : 0 < grace)
    (hheld : x.monitor.holdsSchedule = false → x.monitor.scheduleIsOver = true) (now : Nat) :
    OnCourse grace now x (Closing.start x grace now) (x.leave grace now) where
  stage := Leaving.stage_leave hg hheld now
  follows := by
    rw [Closing.start, Leaving.leave_eq]
    exact ⟨⟨[(now, .shutdown)], rfl, rfl, rfl⟩, ⟨rfl, rfl, rfl, rfl⟩, rfl, rfl, fun _ _ => rfl⟩
  inTime := Nat.le_add_right _ _

/-- No step throws the shutdown off its course, and each leaves less to be done. -/
theorem OnCourse.step (hg : 0 < grace) (hx : x.monitor.Orderly)
    (hapart : ∀ f, x.fate = some f → x.monitor.scheduled? ≠ none → f.time ≠ start + grace)
    (h : OnCourse grace start x s l) (hs : s.Step x s') :
    ∃ l', OnCourse grace start x s' l' ∧ rank grace start x s' l' < rank grace start x s l := by
  cases hs with
  | turn ho ht =>
    obtain ⟨l', hl, hfollows⟩ := h.follows.turn hx h.stage ht
    obtain ⟨hstage, hfewer⟩ := h.stage.turn hg hx hapart hl
    have hnow : s'.now = s.now := by cases ht <;> rfl
    refine ⟨l', ⟨hnow ▸ hstage, hfollows, hnow ▸ h.inTime⟩, ?_⟩
    unfold rank
    rw [hnow]
    exact Nat.add_lt_add_right hfewer _
  | tick ho hq =>
    have hquiet : l.Quiet s.now := by
      intro l' hl
      obtain ⟨s', ht⟩ := h.follows.answer h.stage hl
      exact hq s' ht
    obtain ⟨hstage, hbefore⟩ := h.stage.tick hquiet
    have hlt : s.now < start + x.wait grace start := hbefore (h.follows.shutdown ▸ ho)
    refine ⟨l, ⟨hstage, ⟨h.follows.traced, h.follows.same, h.follows.shutdown, h.follows.aborted,
      h.follows.own⟩, hlt⟩, Nat.add_lt_add_left ?_ _⟩
    exact Nat.sub_lt_sub_left hlt (Nat.lt_succ_self _)

/-- Callers can neither hasten a shutdown nor hold it up. -/
theorem OnCourse.call (hx : x.monitor.Orderly) (h : OnCourse grace start x s l) {ev : MonitorEvent}
    (hev : ev.OfCaller s.monitor) : OnCourse grace start x (s.event ev) l where
  stage := h.stage
  follows := h.follows.call hx (h.follows.same.stopped.trans h.stage.stopped.1) hev
  inTime := h.inTime

theorem OnCourse.run (hg : 0 < grace) (hx : x.monitor.Orderly)
    (hapart : ∀ f, x.fate = some f → x.monitor.scheduled? ≠ none → f.time ≠ start + grace)
    (h : OnCourse grace start x s l) (hr : s.Run x n s') :
    ∃ l', OnCourse grace start x s' l' ∧
      n + rank grace start x s' l' ≤ rank grace start x s l := by
  induction hr with
  | refl => exact ⟨l, h, Nat.le_of_eq (Nat.zero_add _)⟩
  | step hr hs ih =>
    obtain ⟨l', hcourse, hle⟩ := ih
    obtain ⟨l'', hcourse', hlt⟩ := hcourse.step hg hx hapart hs
    exact ⟨l'', hcourse', by omega⟩
  | call hr ho hev ih =>
    obtain ⟨l', hcourse, hle⟩ := ih
    exact ⟨l', hcourse.call hx hev, hle⟩

/-- Something happens until the shutdown is over, whatever callers do. -/
theorem exists_step (x : Monitored) (ho : s.isOver = false) : ∃ s', s.Step x s' := by
  by_cases hq : ∀ s', ¬ s.Turn x s'
  · exact ⟨_, .tick ho hq⟩
  · simp only [Classical.not_forall, Classical.not_not] at hq
    obtain ⟨s', ht⟩ := hq
    exact ⟨s', .turn ho ht⟩

theorem OnCourse.out (h : OnCourse grace start x s l) (ho : s.isOver = true) :
    s.monitor.Out := by
  obtain ⟨hstop, hheld⟩ := h.stage.stopped
  have hover := h.stage.finished (h.follows.shutdown ▸ ho)
  have hsame := h.follows.same
  exact ⟨hsame.stopped.trans hstop, hsame.holds.trans hheld, hsame.over_eq.trans hover⟩

/-- **A shutdown returns with the scheduled probe in flight, or when the grace is over.** Let a monitor
be shut down in any state, unless somebody has begun to shut it down before and has left while its
schedule went on. Let callers have it probed, ask whether it is healthy, leave and stop it as they
like, before that and meanwhile, and let the probe that its schedule waits for end at any time but
just when the grace is over, or never. Then the shutdown is over after finitely many turns, at once if
there is no such probe, and otherwise when that probe ends or the grace does, whichever is earlier.

If the probe ended first, it has stored and logged its result, unless the engine has broken down, and
nothing was aborted. If not, one abort is logged, and the probe never stores or logs anything. The
state is that of the last probe that has completed, or what it was. After that the monitor is not
scheduled, begins no probe unless it is asked to, and to stop it once more changes nothing. Nor does
another shutdown, and it is over at once, as long as no schedule is set up, which happens only while
a monitor is made. -/
theorem shutdown_within_grace (t : ProbeTarget) (es : List (Nat × MonitorEvent))
    (fate : Option ProbeFate) (grace now : Nat) (hg : 0 < grace)
    (hheld : ((Monitor.new t).run es).1.holdsSchedule = false →
      ((Monitor.new t).run es).1.scheduleIsOver = true)
    (hapart : ∀ f, fate = some f → ((Monitor.new t).run es).1.scheduled? ≠ none →
      f.time ≠ now + grace) :
    let m := ((Monitor.new t).run es).1
    let x : Monitored := ⟨m, fate⟩
    let first := Closing.start x grace now
    (∃ bound, ∀ n s, first.Run x n s → n ≤ bound) ∧
    ∀ n s, first.Run x n s →
      (s.isOver = false → ∃ s', s.Step x s') ∧
      (s.isOver = true →
        s.now = now + x.wait grace now ∧
        s.monitor.state = (s.completed.getLast?.map (·.2.state)).getD m.state ∧
        s.journal.results.reverse = s.completed.map (·.2) ∧
        (∀ k, m.scheduled? = some k →
          (s.completed.filter (·.1 = k)).map (·.2) = (x.result? (now + grace)).toList) ∧
        s.journal.aborted =
          (if x.isLate (now + grace) then [(m.target, .ofMillis grace)] else []) ∧
        ∀ later : List (Nat × MonitorEvent),
          let m' := (s.monitor.run later).1
          m'.isScheduled = false ∧ m'.scheduled? = none ∧
          (∀ time ev, (m'.step time ev).1.begun ≠ m'.begun → ev = .read ∨ ev = .check) ∧
          (∀ k, m.scheduled? = some k → k ∉ (s.monitor.completed later).map (·.1)) ∧
          m'.state = ((s.monitor.completed later).getLast?.map (·.2.state)).getD s.monitor.state ∧
          (s.monitor.run later).2.results.reverse = (s.monitor.completed later).map (·.2) ∧
          (∀ time ev, ev = .stop ∨ ev = .drop → m'.step time ev = (m', [])) ∧
          ((∀ u ∈ later, ∀ c anchor period, u.2 ≠ .schedule c anchor period) →
            (s.monitor.run later).2.aborted = [] ∧
            ∀ grace' time, (MonitorShutdown.start grace').advance time m' =
              some (⟨grace', .ended⟩, m', []))) := by
  intro m x first
  have hx : m.Orderly := (Monitor.orderly_new t).run es
  have hfirst : OnCourse grace now x first (x.leave grace now) := onCourse_start hg hheld now
  constructor
  · refine ⟨rank grace now x first (x.leave grace now), ?_⟩
    intro n s hr
    obtain ⟨l, -, hle⟩ := hfirst.run hg hx hapart hr
    omega
  intro n s hr
  obtain ⟨l, hcourse, -⟩ := hfirst.run hg hx hapart hr
  refine ⟨exists_step x, ?_⟩
  intro ho
  have hfollows := hcourse.follows
  obtain ⟨hreached, hsettled⟩ := hcourse.stage.settled_of_over (hfollows.shutdown ▸ ho)
  have hout : s.monitor.Out := hcourse.out ho
  obtain ⟨es', hm, hj, hdone⟩ := hfollows.traced
  refine ⟨Nat.le_antisymm hcourse.inTime hreached, ?_, ?_, ?_, ?_, ?_⟩
  · rw [← hm, ← hdone, Monitor.state_run]
  · rw [← hj, ← hdone, Monitor.results_run]
  · intro k hk
    rw [hfollows.own k hk, hsettled.results]
    cases x.result? (now + grace) <;> rfl
  · rw [hfollows.aborted, hsettled.aborted]
  · intro later m'
    obtain ⟨hscheduled, hidle, hbegun⟩ := Monitor.idle_for_good hout.stopped hout.idle later
    have hstopped : m'.stopped = true := (Monitor.run_of_stopped hout.stopped later).1
    refine ⟨hscheduled, hidle, hbegun, ?_, s.monitor.state_run later, s.monitor.results_run later,
      ?_, ?_⟩
    · intro k hk
      rcases hfollows.traced.scheduled_or_gone hx hk with hkept | ⟨hb, hgone⟩
      · cases hout.idle.symm.trans hkept
      · exact Monitor.not_completed_of_gone hb hgone later
    · intro time ev hev
      rw [Monitor.step_stop hev, ← hstopped]
    · intro hlater
      obtain ⟨hout', hnone⟩ := hout.run hlater
      exact ⟨hnone, hout'.advance⟩

/-- A scheduled probe hangs, and is aborted after a second, whatever callers do meanwhile. -/
theorem shutdown_within_grace_hanging :
    let t : ProbeTarget := ⟨"a", .v4 10 0 0 5, ⟨none, [], ['/'], none⟩, none⟩
    let es : List (Nat × MonitorEvent) := [(0, .check), (10, .answered 0 (.ok .ok)),
      (10, .schedule (.ofAge 0) 0 100), (100, .takeTick), (100, .useTick)]
    let m := ((Monitor.new t).run es).1
    let x : Monitored := ⟨m, none⟩
    m.scheduled? = some 1 ∧ ∀ n s, (Closing.start x 1000 120).Run x n s → s.isOver = true →
      s.now = 1120 ∧ s.completed.filter (·.1 = 1) = [] ∧
        s.journal.aborted = [(t, .ofMillis 1000)] ∧
        ∀ later, 1 ∉ (s.monitor.completed later).map (·.1) := by
  intro t es m x
  have hscheduled : m.scheduled? = some 1 := rfl
  have hheld : m.holdsSchedule = false → m.scheduleIsOver = true := nofun
  refine ⟨hscheduled, fun n s hr ho => ?_⟩
  obtain ⟨hnow, -, -, hown, haborted, hlater⟩ :=
    ((shutdown_within_grace t es none 1000 120 (by decide) hheld nofun).2 n s hr).2 ho
  refine ⟨hnow, List.map_eq_nil_iff.1 (hown 1 hscheduled), haborted, fun later => ?_⟩
  obtain ⟨-, -, -, hnever, -⟩ := hlater later
  exact hnever 1 hscheduled

end Closing
end EndpointClient
