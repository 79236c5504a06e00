import EndpointClient.Health.Shutdown
import EndpointClient.Proofs.Health.Stop

/-!
# EndpointClient.Proofs.Health.Shutdown

The shutdown of one monitor, from the moment at which it begins.

* `Monitored` is a monitor with what becomes of its scheduled probe in flight. From these come
  `Monitored.wait`, how long its shutdown takes, `Monitored.result?`, the result of the probe if it
  ends in time, and `Monitored.isLate`, whether it is aborted.
* `Leaving.Turn` is all that happens to a monitor while it is shut down: its schedule goes on, its
  probe ends, its shutdown goes on.
* `Settled` is what holds once the schedule has no probe in flight any more. `Leaving.Stage` is how
  far things have come at a time; `stage_leave` is the beginning, `Stage.turn` what a turn does, and
  `Stage.tick` what it takes for time to pass.
-/

namespace EndpointClient

/-- The probes that have been aborted, by their targets, each with the time that it was left. -/
def Journal.aborted (j : Journal) : List (ProbeTarget × Duration) :=
  j.filterMap fun
    | .probeAborted t grace => some (t, grace)
    | _ => none

theorem Journal.aborted_append (j j' : Journal) :
    Journal.aborted (j ++ j') = j.aborted ++ j'.aborted := List.filterMap_append

/-- What becomes of a probe: when the engine is done with it, and the result, none if the engine
breaks down. -/
structure ProbeFate where
  time : Nat
  result : Option ProbeResult

def ProbeFate.event (f : ProbeFate) (n : Nat) : MonitorEvent :=
  f.result.elim .breakDown (.answered n)

/-- A monitor, and what becomes of its scheduled probe in flight, if it has one. A probe without a
fate never ends. -/
structure Monitored where
  monitor : Monitor
  fate : Option ProbeFate

/-- A monitor while it is shut down: what it was when that began, what it is now, and what has
happened in between. -/
structure Leaving where
  origin : Monitored
  monitor : Monitor
  shutdown : MonitorShutdown
  journal : Journal

namespace Monitored

/-- The time that the scheduled probe in flight still needs, but no more than the grace. -/
def wait (x : Monitored) (grace now : Nat) : Nat :=
  match x.monitor.scheduled?, x.fate with
  | none, _ => 0
  | some _, none => grace
  | some _, some f => min grace (f.time - now)

/-- The result of the scheduled probe in flight, if it ends before a time. -/
def result? (x : Monitored) (limit : Nat) : Option ProbeResult :=
  match x.monitor.scheduled?, x.fate with
  | some _, some f => if f.time < limit then f.result else none
  | _, _ => none

/-- Whether the scheduled probe in flight needs longer than up to a time. -/
def isLate (x : Monitored) (limit : Nat) : Bool :=
  match x.monitor.scheduled?, x.fate with
  | none, _ => false
  | some _, none => true
  | some _, some f => limit < f.time

def leave (x : Monitored) (grace now : Nat) : Leaving :=
  let (s, m) := (MonitorShutdown.start grace).begin now x.monitor
  ⟨x, m, s, []⟩

end Monitored

/-- What happens to a monitor while it is shut down. -/
inductive Leaving.Turn (now : Nat) (l : Leaving) : Leaving → Prop where
  | schedule {m : Monitor} {j : Journal} (h : l.monitor.pollSchedule now = some (m, j)) :
      Turn now l { l with monitor := m, journal := j ++ l.journal }
  | ended {n : Nat} {f : ProbeFate} (hn : l.monitor.scheduled? = some n)
      (hf : l.origin.fate = some f) (hd : f.time ≤ now) :
      Turn now l
        { l with
          monitor := (l.monitor.step now (f.event n)).1,
          journal := (l.monitor.step now (f.event n)).2 ++ l.journal }
  | shutdown {s : MonitorShutdown} {m : Monitor} {j : Journal}
      (h : l.shutdown.advance now l.monitor = some (s, m, j)) :
      Turn now l { l with monitor := m, shutdown := s, journal := j ++ l.journal }

/-- Nothing can happen at a time. -/
def Leaving.Quiet (now : Nat) (l : Leaving) : Prop := ∀ l', ¬ l.Turn now l'

namespace Monitor

variable {m : Monitor} {now n : Nat}

/-! ## The schedule of a monitor that was stopped -/

theorem not_over_of_probing (hn : m.scheduled? = some n) : m.scheduleIsOver = false := by
  obtain ⟨period, next, hs⟩ := scheduled?_iff.1 hn
  simp [scheduleIsOver, Schedule.isOver, hs]

theorem pollSchedule_of_probing (hn : m.scheduled? = some n) (now : Nat) :
    m.pollSchedule now = none := by
  obtain ⟨period, next, hs⟩ := scheduled?_iff.1 hn
  simp [pollSchedule, takeTick, useTick, hs]

theorem pollSchedule_of_over (ho : m.scheduleIsOver = true) (now : Nat) :
    m.pollSchedule now = none := by
  cases hs : m.schedule with
  | none => simp [pollSchedule, takeTick, useTick, hs]
  | some s =>
    obtain ⟨period, next, phase⟩ := s
    cases phase with
    | idle | beyond | ticked | probing => simp [scheduleIsOver, Schedule.isOver, hs] at ho
    | stopped | aborted | broken => simp [pollSchedule, takeTick, useTick, hs]

theorem endShutdown_over (m : Monitor) (grace : Nat) :
    (m.endShutdown grace).1.scheduleIsOver = true := by
  show m.abortSchedule.scheduleIsOver = true
  unfold abortSchedule
  split
  · rfl
  · rfl
  · rfl
  · rfl
  · rename_i hprobing hidle hbeyond hticked
    unfold scheduleIsOver
    cases hs : m.schedule with
    | none => rfl
    | some s =>
      obtain ⟨period, next, phase⟩ := s
      cases phase with
      | idle => exact absurd hs (hidle period next)
      | beyond => exact absurd hs (hbeyond period next)
      | ticked => exact absurd hs (hticked period next)
      | probing n => exact absurd hs (hprobing period next n)
      | stopped | aborted | broken => rfl

/-- A turn with which the schedule of a stopped monitor comes to its end: it halts, or it breaks
down. -/
inductive Halts (m : Monitor) : Monitor × Journal → Prop where
  | stopped (period next : Nat) : m.Halts (m.haltSchedule period next)
  | broken (period next : Nat) : m.Halts ({ m with schedule := some ⟨period, next, .broken⟩ }, [])

theorem Halts.over {mj : Monitor × Journal} (h : m.Halts mj) : mj.1.scheduleIsOver = true := by
  cases h <;> rfl

/-- The schedule of a stopped monitor can only come to its end. -/
theorem pollSchedule_halts (h : m.stopped = true) {period next : Nat} {phase : SchedulePhase}
    (hs : m.schedule = some ⟨period, next, phase⟩) (now : Nat) : m.pollSchedule now =
      if phase = .beyond then some ({ m with schedule := some ⟨period, next, .broken⟩ }, [])
      else if phase = .idle ∨ phase = .ticked then some (m.haltSchedule period next) else none := by
  cases phase with
  | idle | ticked => simp [pollSchedule, takeTick, useTick, hs, h, haltSchedule]
  | beyond | probing | stopped | aborted | broken => simp [pollSchedule, takeTick, useTick, hs]

theorem pollSchedule_of_stopped (h : m.stopped = true) (hn : m.scheduled? = none)
    (ho : m.scheduleIsOver = false) (now : Nat) :
    ∃ mj, m.pollSchedule now = some mj ∧ m.Halts mj := by
  cases hs : m.schedule with
  | none => simp [scheduleIsOver, hs] at ho
  | some s =>
    obtain ⟨period, next, phase⟩ := s
    rw [pollSchedule_halts h hs]
    cases phase with
    | idle | ticked => exact ⟨_, rfl, .stopped period next⟩
    | beyond => exact ⟨_, rfl, .broken period next⟩
    | probing k => simp [scheduled?, hs] at hn
    | stopped | aborted | broken => simp [scheduleIsOver, Schedule.isOver, hs] at ho

theorem step_fate (h : m.Orderly) (hn : m.scheduled? = some n) (f : ProbeFate) (now : Nat) :
    let u := m.step now (f.event n)
    u.1.stopped = m.stopped ∧ u.1.holdsSchedule = m.holdsSchedule ∧ u.1.scheduled? = none ∧
      n < u.1.begun ∧ u.1.isInFlight n = false ∧
      u.1.state = (f.result.map ProbeResult.state).getD m.state ∧
      u.2.results = f.result.toList ∧ u.2.aborted = [] := by
  obtain ⟨period, next, hs⟩ := scheduled?_iff.1 hn
  have hflight := h.scheduled n hn
  have hlt := h.numbered n hflight
  have hgone : (m.forget n).isInFlight n = false := by simp [isInFlight_forget]
  obtain ⟨time, result⟩ := f
  cases result with
  | none =>
    have hstep : m.step now .breakDown =
        ({ m.forget n with schedule := some ⟨period, next, .broken⟩ }, []) := by
      simp [step, breakSchedule, hs]
    intro u
    have hu : u = _ := hstep
    rw [hu]
    exact ⟨rfl, rfl, rfl, hlt, hgone, rfl, rfl, rfl⟩
  | some r =>
    obtain ⟨p, hp⟩ := find?_of_isInFlight hflight
    obtain ⟨hstate, hidle, hresults⟩ := step_answered h hn now r
    intro u
    have hu : u = _ := endProbe_of_inFlight hp now r
    refine ⟨by rw [hu]; rfl, by rw [hu]; rfl, hidle, by rw [hu]; exact hlt, ?_, hstate, hresults,
      by rw [hu]; rfl⟩
    rw [hu]
    exact hgone

end Monitor

/-! ## What comes of it -/

/-- What holds of a monitor that is shut down once its schedule has no probe in flight any more. The
schedule is given up, the probe is done with for good, and its result is stored and logged if it ended
in time. -/
structure Settled (limit : Nat) (grace : Duration) (x : Monitored) (m : Monitor) (j : Journal) :
    Prop where
  stopped : m.stopped = true
  given : m.holdsSchedule = false
  idle : m.scheduled? = none
  gone : ∀ n, x.monitor.scheduled? = some n → n < m.begun ∧ m.isInFlight n = false
  state : m.state = ((x.result? limit).map ProbeResult.state).getD x.monitor.state
  results : j.results = (x.result? limit).toList
  aborted : j.aborted = if x.isLate limit then [(x.monitor.target, grace)] else []

namespace Settled

variable {limit : Nat} {grace : Duration} {x : Monitored} {m : Monitor} {j : Journal}

theorem for_good (h : Settled limit grace x m j) (es : List (Nat × MonitorEvent)) :
    (m.run es).1.isScheduled = false ∧ (m.run es).1.scheduled? = none ∧
      (∀ later ev, ((m.run es).1.step later ev).1.begun ≠ (m.run es).1.begun →
        ev = .read ∨ ev = .check) ∧
      ∀ n, x.monitor.scheduled? = some n → n ∉ (m.completed es).map (·.1) := by
  obtain ⟨hscheduled, hidle, hbegun⟩ := Monitor.idle_for_good h.stopped h.idle es
  refine ⟨hscheduled, hidle, hbegun, fun n hn => ?_⟩
  exact Monitor.not_completed_of_gone (h.gone n hn).1 (h.gone n hn).2 es

theorem halt (h : Settled limit grace x m j) {mj : Monitor × Journal} (hm : m.Halts mj) :
    Settled limit grace x mj.1 (mj.2 ++ j) := by
  cases hm with
  | stopped | broken => exact { h with idle := rfl }

end Settled

namespace Monitored

variable {x : Monitored} {grace now limit n : Nat} {f : ProbeFate}

theorem wait_of_idle (hn : x.monitor.scheduled? = none) (grace now : Nat) :
    x.wait grace now = 0 := by
  simp [wait, hn]

theorem wait_of_endless (hn : x.monitor.scheduled? = some n) (hf : x.fate = none)
    (grace now : Nat) : x.wait grace now = grace := by
  simp [wait, hn, hf]

theorem wait_of_fate (hn : x.monitor.scheduled? = some n) (hf : x.fate = some f)
    (grace now : Nat) : x.wait grace now = min grace (f.time - now) := by
  simp [wait, hn, hf]

theorem wait_le (x : Monitored) (grace now : Nat) : x.wait grace now ≤ grace := by
  unfold wait
  split <;> omega

theorem settled_of_idle (hn : x.monitor.scheduled? = none) (limit : Nat) (d : Duration) :
    Settled limit d x x.monitor.beginShutdown.1 [] := by
  have hresult : x.result? limit = none := by simp [result?, hn]
  have hlate : x.isLate limit = false := by simp [isLate, hn]
  exact {
    stopped := rfl
    given := rfl
    idle := hn
    gone := fun n h => by cases hn.symm.trans h
    state := by rw [hresult]; rfl
    results := by rw [hresult]; rfl
    aborted := by rw [hlate]; rfl }

theorem settled_of_ended (h : x.monitor.Orderly) (hn : x.monitor.scheduled? = some n)
    (hf : x.fate = some f) (ht : f.time < limit) (now : Nat) (d : Duration) :
    Settled limit d x (x.monitor.beginShutdown.1.step now (f.event n)).1
      (x.monitor.beginShutdown.1.step now (f.event n)).2 := by
  have horderly : x.monitor.beginShutdown.1.Orderly := h.step now .shutdown
  have hscheduled : x.monitor.beginShutdown.1.scheduled? = some n := hn
  have hresult : x.result? limit = f.result := by simp [result?, hn, hf, ht]
  have hlate : x.isLate limit = false := by
    simp only [isLate, hn, hf, decide_eq_false_iff_not]
    omega
  obtain ⟨hstopped, hgiven, hidle, hlt, hout, hstate, hresults, haborted⟩ :=
    Monitor.step_fate horderly hscheduled f now
  exact {
    stopped := hstopped
    given := hgiven
    idle := hidle
    gone := fun k hk => by
      cases hn.symm.trans hk
      exact ⟨hlt, hout⟩
    state := by rw [hresult]; exact hstate
    results := by rw [hresult]; exact hresults
    aborted := by rw [hlate]; exact haborted }

/-- The time for the probe runs out before it ends. -/
theorem settled_of_late (h : x.monitor.Orderly) (hn : x.monitor.scheduled? = some n)
    (hlate : ∀ f, x.fate = some f → limit < f.time) (grace : Nat) :
    Settled limit (.ofMillis grace) x (x.monitor.beginShutdown.1.endShutdown grace).1
      (x.monitor.beginShutdown.1.endShutdown grace).2 := by
  have hresult : x.result? limit = none := by
    unfold result?
    split
    · rename_i f _ hf
      rw [if_neg (Nat.lt_asymm (hlate f hf))]
    · rfl
  have hlate' : x.isLate limit = true := by
    unfold isLate
    split
    · rename_i hnone
      cases hn.symm.trans hnone
    · rfl
    · rename_i f _ hf
      exact decide_eq_true (hlate f hf)
  obtain ⟨period, next, hs⟩ := Monitor.scheduled?_iff.1 hn
  have habort : x.monitor.beginShutdown.1.abortSchedule =
      { x.monitor.beginShutdown.1.forget n with schedule := some ⟨period, next, .aborted⟩ } := by
    have hs' : x.monitor.beginShutdown.1.schedule = some ⟨period, next, .probing n⟩ := hs
    simp only [Monitor.abortSchedule, hs']
  rw [Monitor.endShutdown, habort]
  exact {
    stopped := rfl
    given := rfl
    idle := rfl
    gone := fun k hk => by
      cases hn.symm.trans hk
      have hgone : (x.monitor.forget n).isInFlight n = false := by
        simp [Monitor.isInFlight_forget]
      exact ⟨h.numbered n (h.scheduled n hn), hgone⟩
    state := by rw [hresult]; rfl
    results := by rw [hresult]; rfl
    aborted := by rw [hlate']; rfl }

end Monitored

/-! ## Stages -/

namespace Leaving

/-- How far the shutdown of a monitor has come at a time, if it began at `start`: the probe is in
flight; it is not, and the schedule has still to end; the schedule is over; the shutdown is. -/
inductive Stage (grace start now : Nat) (x : Monitored) : Leaving → Prop where
  | probing {n : Nat} (hn : x.monitor.scheduled? = some n) (hb : start ≤ now)
      (hd : now ≤ start + x.wait grace start) :
      Stage grace start now x
        ⟨x, x.monitor.beginShutdown.1, ⟨grace, .waiting (start + grace)⟩, []⟩
  | halting {m : Monitor} {j : Journal} (hx : Settled (start + grace) (.ofMillis grace) x m j)
      (ho : m.scheduleIsOver = false) (hd : now = start + x.wait grace start)
      (hw : x.wait grace start < grace) :
      Stage grace start now x ⟨x, m, ⟨grace, .waiting (start + grace)⟩, j⟩
  | halted {m : Monitor} {j : Journal} (hx : Settled (start + grace) (.ofMillis grace) x m j)
      (ho : m.scheduleIsOver = true) (hd : now = start + x.wait grace start) :
      Stage grace start now x ⟨x, m, ⟨grace, .waiting (start + grace)⟩, j⟩
  | done {m : Monitor} {j : Journal} (hx : Settled (start + grace) (.ofMillis grace) x m j)
      (ho : m.scheduleIsOver = true) (hd : start + x.wait grace start ≤ now) :
      Stage grace start now x ⟨x, m, ⟨grace, .ended⟩, j⟩

variable {grace start now : Nat} {x : Monitored} {l l' : Leaving}

/-- Whether a shutdown has to wait is whether the monitor has a schedule to give up. -/
theorem leave_eq (x : Monitored) (grace start : Nat) : x.leave grace start =
    ⟨x, x.monitor.beginShutdown.1,
      ⟨grace, if x.monitor.holdsSchedule then .waiting (start + grace) else .ended⟩, []⟩ := by
  rw [Monitored.leave, MonitorShutdown.begin_eq]
  rfl

theorem stage_leave (hg : 0 < grace)
    (hheld : x.monitor.holdsSchedule = false → x.monitor.scheduleIsOver = true) (start : Nat) :
    Stage grace start start x (x.leave grace start) := by
  rw [leave_eq]
  cases hn : x.monitor.scheduled? with
  | some n =>
    cases hholds : x.monitor.holdsSchedule with
    | true => exact .probing hn (Nat.le_refl _) (Nat.le_add_right _ _)
    | false => cases (hheld hholds).symm.trans (Monitor.not_over_of_probing hn)
  | none =>
    have hwait := Monitored.wait_of_idle hn grace start
    have hsettled := Monitored.settled_of_idle hn (start + grace) (.ofMillis grace)
    cases hholds : x.monitor.holdsSchedule with
    | false => exact .done hsettled (hheld hholds) (by omega)
    | true =>
      cases ho : x.monitor.scheduleIsOver with
      | true => exact .halted hsettled ho (by omega)
      | false => exact .halting hsettled ho (by omega) (by omega)

theorem Stage.origin_eq (h : Stage grace start now x l) : l.origin = x := by
  cases h <;> rfl

theorem Stage.settled_of_over (h : Stage grace start now x l) (ho : l.shutdown.isOver = true) :
    start + x.wait grace start ≤ now ∧
      Settled (start + grace) (.ofMillis grace) x l.monitor l.journal := by
  cases h with
  | done hx _ hd => exact ⟨hd, hx⟩
  | probing | halting | halted => cases ho

/-- How many turns are left of a shutdown at most: its probe ends, its schedule does, and it does. -/
def turnsLeft (l : Leaving) : Nat :=
  if l.shutdown.isOver then 0
  else if l.monitor.scheduleIsOver then 1
  else if l.monitor.scheduled?.isNone then 2
  else 3

@[simp]
theorem turnsLeft_over (x : Monitored) (m : Monitor) (j : Journal) :
    turnsLeft ⟨x, m, ⟨grace, .ended⟩, j⟩ = 0 := rfl

@[simp]
theorem turnsLeft_waiting (x : Monitored) (m : Monitor) (deadline : Nat) (j : Journal) :
    turnsLeft ⟨x, m, ⟨grace, .waiting deadline⟩, j⟩ =
      if m.scheduleIsOver then 1 else if m.scheduled?.isNone then 2 else 3 := rfl

/-- A turn takes a shutdown from stage to stage, and brings it nearer to its end. -/
theorem Stage.turn (hg : 0 < grace) (horderly : x.monitor.Orderly)
    (hapart : ∀ f, x.fate = some f → x.monitor.scheduled? ≠ none → f.time ≠ start + grace)
    (h : Stage grace start now x l) (ht : l.Turn now l') :
    Stage grace start now x l' ∧ l'.turnsLeft < l.turnsLeft := by
  cases h with
  | @probing n hn hb hd =>
    have hscheduled : x.monitor.beginShutdown.1.scheduled? = some n := hn
    have hheld := Monitor.not_over_of_probing hscheduled
    cases ht with
    | schedule hp => cases (Monitor.pollSchedule_of_probing hscheduled now).symm.trans hp
    | @ended k f hk hf hdue =>
      cases hscheduled.symm.trans hk
      have hwait := Monitored.wait_of_fate hn hf grace start
      have hne := hapart f hf (by simp [hn])
      have hearly : f.time < start + grace := by omega
      have hsettled := Monitored.settled_of_ended horderly hn hf hearly now (.ofMillis grace)
      rw [← List.append_nil (Monitor.step _ _ _).2] at hsettled
      have hidle := hsettled.idle
      cases ho : (x.monitor.beginShutdown.1.step now (f.event n)).1.scheduleIsOver with
      | true => exact ⟨.halted hsettled ho (by omega), by simp [ho, hheld, hscheduled]⟩
      | false =>
        exact ⟨.halting hsettled ho (by omega) (by omega), by simp [ho, hidle, hheld, hscheduled]⟩
    | shutdown hs =>
      -- the schedule is not over, so the time has run out, and the probe would have ended later
      rw [MonitorShutdown.advance_of_held hheld, Option.ite_none_right_eq_some] at hs
      obtain ⟨hdue, hs⟩ := hs
      cases hs
      have hlate : ∀ f, x.fate = some f → start + grace < f.time := by
        intro f hf
        have hwait := Monitored.wait_of_fate hn hf grace start
        have hne := hapart f hf (by simp [hn])
        omega
      have hsettled := Monitored.settled_of_late horderly hn hlate grace
      have ho := Monitor.endShutdown_over x.monitor.beginShutdown.1 grace
      have hle := x.wait_le grace start
      rw [← List.append_nil (Monitor.endShutdown _ _).2] at hsettled
      exact ⟨.done hsettled ho (by omega), by simp [hheld, hscheduled]⟩
  | @halting m j hx ho hd hw =>
    cases ht with
    | schedule hp =>
      obtain ⟨mj, hpoll, hhalt⟩ := Monitor.pollSchedule_of_stopped hx.stopped hx.idle ho now
      cases hpoll.symm.trans hp
      refine ⟨.halted (hx.halt hhalt) hhalt.over hd, ?_⟩
      rw [turnsLeft_waiting, turnsLeft_waiting, ho, hx.idle, hhalt.over]
      exact Nat.lt_succ_self 1
    | ended hk => cases hx.idle.symm.trans hk
    | shutdown hs =>
      rw [MonitorShutdown.advance_of_held ho, Option.ite_none_right_eq_some] at hs
      omega
  | @halted m j hx ho hd =>
    cases ht with
    | schedule hp => cases (Monitor.pollSchedule_of_over ho now).symm.trans hp
    | ended hk => cases hx.idle.symm.trans hk
    | shutdown hs =>
      cases (MonitorShutdown.advance_of_over ho _ _ now).symm.trans hs
      exact ⟨.done hx ho (Nat.le_of_eq hd.symm), by simp [ho]⟩
  | done hx ho hd =>
    cases ht with
    | schedule hp => cases (Monitor.pollSchedule_of_over ho now).symm.trans hp
    | ended hk => cases hx.idle.symm.trans hk
    | shutdown hs => cases hs

theorem Quiet.before_deadline (hq : l.Quiet now) (ho : l.monitor.scheduleIsOver = false)
    {deadline : Nat} (hs : l.shutdown = ⟨grace, .waiting deadline⟩) : now < deadline := by
  rcases Nat.lt_or_ge now deadline with hlt | hge
  · exact hlt
  · have hadvance := MonitorShutdown.advance_of_held ho grace deadline now
    rw [if_pos hge, ← hs] at hadvance
    exact absurd (.shutdown hadvance) (hq _)

theorem Quiet.before_end (hq : l.Quiet now) {n : Nat} (hn : l.monitor.scheduled? = some n)
    {f : ProbeFate} (hf : l.origin.fate = some f) : now < f.time := by
  rcases Nat.lt_or_ge now f.time with hlt | hge
  · exact hlt
  · exact absurd (.ended hn hf hge) (hq _)

/-- Time passes for a shutdown only when it is over, or waits for a probe. -/
theorem Stage.tick (h : Stage grace start now x l) (hq : l.Quiet now) :
    Stage grace start (now + 1) x l ∧
      (l.shutdown.isOver = false → now < start + x.wait grace start) := by
  cases h with
  | @probing n hn hb hd =>
    have hscheduled : x.monitor.beginShutdown.1.scheduled? = some n := hn
    have hgrace := hq.before_deadline (Monitor.not_over_of_probing hscheduled) rfl
    have hlt : now < start + x.wait grace start := by
      cases hf : x.fate with
      | none =>
        rw [Monitored.wait_of_endless hn hf]
        exact hgrace
      | some f =>
        have hwait := Monitored.wait_of_fate hn hf grace start
        have hend := hq.before_end hscheduled hf
        omega
    exact ⟨.probing hn (Nat.le_succ_of_le hb) hlt, fun _ => hlt⟩
  | halting hx ho hd hw =>
    obtain ⟨mj, hpoll, -⟩ := Monitor.pollSchedule_of_stopped hx.stopped hx.idle ho now
    exact absurd (.schedule hpoll) (hq _)
  | halted hx ho hd =>
    exact absurd (.shutdown (MonitorShutdown.advance_of_over ho _ _ now)) (hq _)
  | done hx ho hd => exact ⟨.done hx ho (Nat.le_succ_of_le hd), nofun⟩

end Leaving

end EndpointClient
