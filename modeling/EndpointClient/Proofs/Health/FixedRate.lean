import EndpointClient.Proofs.Health.LastProbe

/-!
# EndpointClient.Proofs.Health.FixedRate

The times at which a schedule begins its probes.

* `Paced` is a monitor with a schedule as time goes by, from the end of its first probe on.
  `Paced.Step` is all that can happen to it while it is not stopped: any event, and time passes
  while the schedule waits.
* `Stage` is how far the schedule is: it waits for its next tick, has taken it, waits for its probe,
  or broke down with it; or its first tick is beyond the clock, so that it breaks down without a
  probe. `OnGrid` is the invariant: the ticks taken, the one to come and the probes begun are on the
  grid. `OnGrid.event` and `OnGrid.pass` keep it.
* `OnGrid.begun_of_lt`: no tick is missed that the clock reaches. `OnGrid.exists_later`: nothing keeps
  time from passing.
* `fixed_rate`: each probe begins on its tick, or at the end of the probe before if that is later.

All times are milliseconds.
-/

namespace EndpointClient

/-- A monitor with a schedule as time goes by: when its scheduled probes began and when they ended,
the earliest first. In front of the ends stands that of the probe before the schedule. -/
structure Paced where
  now : Nat
  monitor : Monitor
  begins : List Nat
  ends : List Nat

namespace Paced

/-- A monitor that was made from a time on until its first probe ended. -/
def start (clock : Clock) (plan : MonitorPlan) (t₀ e₀ : Nat) (r : ProbeResult) : Paced :=
  let d := MonitorDraft.start plan t₀
  let d : MonitorDraft := { d with monitor := (d.monitor.endProbe 0 e₀ r).1 }
  ⟨e₀, (d.complete clock).1, [], [e₀]⟩

/-- An event happens now, and it may begin or end a scheduled probe. -/
def after (s : Paced) (ev : MonitorEvent) : Paced :=
  let m := (s.monitor.step s.now ev).1
  { s with
    monitor := m
    begins := if s.monitor.scheduled?.isNone && m.scheduled?.isSome then s.begins ++ [s.now]
      else s.begins
    ends := if (s.monitor.completion? ev).any fun c => s.monitor.scheduled? = some c.1
      then s.ends ++ [s.now] else s.ends }

/-- The schedule waits, for its next tick or for its probe. -/
def Quiet (s : Paced) : Prop := s.monitor.takeTick s.now = none ∧ s.monitor.useTick s.now = none

/-- Anything happens to the monitor but its end, or time passes while its schedule waits. -/
inductive Step (s : Paced) : Paced → Prop where
  | event (ev : MonitorEvent) (hstop : ev ≠ .stop) (hdrop : ev ≠ .drop) (hshut : ev ≠ .shutdown) :
      Step s (s.after ev)
  | pass (hq : s.Quiet) : Step s { s with now := s.now + 1 }

inductive Run (s : Paced) : Paced → Prop where
  | refl : Run s s
  | step {s' s'' : Paced} (h : Run s s') (hs : s'.Step s'') : Run s s''

variable {clock : Clock} {period t₀ e₀ : Nat} {s s' : Paced}

/-- When the scheduled probe after `k` others is to begin, if the probe before it ended at `e`. -/
def due (period t₀ k e : Nat) : Nat := max (t₀ + (k + 1) * period) e

/-- How far the schedule is. -/
inductive Stage (clock : Clock) (period t₀ : Nat) (s : Paced) : Prop where
  | waiting {e : Nat}
      (hs : s.monitor.schedule = some ⟨period, t₀ + (s.begins.length + 1) * period, .idle⟩)
      (hlen : s.ends.length = s.begins.length + 1) (he : s.ends[s.begins.length]? = some e)
      (hnow : s.now ≤ due period t₀ s.begins.length e)
  | ticked {e : Nat}
      (hs : s.monitor.schedule = some ⟨period, t₀ + (s.begins.length + 2) * period, .ticked⟩)
      (hlen : s.ends.length = s.begins.length + 1) (he : s.ends[s.begins.length]? = some e)
      (hnow : s.now = due period t₀ s.begins.length e)
  | probing {n : Nat}
      (hs : s.monitor.schedule = some ⟨period, t₀ + (s.begins.length + 1) * period, .probing n⟩)
      (hlen : s.ends.length = s.begins.length)
  | broken {next : Nat} (hs : s.monitor.schedule = some ⟨period, next, .broken⟩)
      (hlen : s.ends.length = s.begins.length)
  | beyond {next : Nat} (hs : s.monitor.schedule = some ⟨period, next, .beyond⟩)
      (hnone : s.begins = []) (hlate : clock.last < t₀ + period)
  | overran {next : Nat} (hs : s.monitor.schedule = some ⟨period, next, .broken⟩)
      (hnone : s.begins = []) (hlate : clock.last < t₀ + period)

/-- The schedule is on its grid: each probe has begun on its tick or at the end of the one before, and
the next one is still to come at its time. -/
structure OnGrid (clock : Clock) (period t₀ : Nat) (s : Paced) : Prop where
  orderly : s.monitor.Orderly
  held : s.monitor.holdsSchedule = true
  goesOn : s.monitor.stopped = false
  past : ∀ e ∈ s.ends, e ≤ s.now
  begun : ∀ (k t : Nat), s.begins[k]? = some t → ∃ e, s.ends[k]? = some e ∧ t = due period t₀ k e
  stage : s.Stage clock period t₀

theorem OnGrid.pass (h : s.OnGrid clock period t₀) (hq : s.Quiet) :
    OnGrid clock period t₀ { s with now := s.now + 1 } where
  orderly := h.orderly
  held := h.held
  goesOn := h.goesOn
  past e he := Nat.le_succ_of_le (h.past e he)
  begun := h.begun
  stage := by
    have hstop := h.goesOn
    cases h.stage with
    | @waiting e hs hlen he hnow =>
      have htake := hq.1
      simp only [Monitor.takeTick, hs, hstop, Bool.false_eq_true, if_false, ite_eq_right_iff,
        reduceCtorEq, imp_false, Nat.not_le] at htake
      refine .waiting hs hlen he ?_
      exact Nat.le_trans htake (Nat.le_max_left _ _)
    | ticked hs =>
      have huse := hq.2
      simp [Monitor.useTick, hs, hstop] at huse
    | probing hs hlen => exact .probing hs hlen
    | broken hs hlen => exact .broken hs hlen
    | beyond hs hnone hlate => exact .beyond hs hnone hlate
    | overran hs hnone hlate => exact .overran hs hnone hlate

/-- Nothing but the monitor changes if no scheduled probe begins or ends. -/
theorem after_eq {ev : MonitorEvent} {m : Monitor} (hm : (s.monitor.step s.now ev).1 = m)
    (hbegin : s.monitor.scheduled? = none → m.scheduled? = none)
    (hend : ∀ c, s.monitor.completion? ev = some c → s.monitor.scheduled? ≠ some c.1) :
    s.after ev = { s with monitor := m } := by
  have hb : (s.monitor.scheduled?.isNone && m.scheduled?.isSome) = false := by
    cases hs : s.monitor.scheduled? with
    | none =>
      rw [hbegin hs]
      rfl
    | some n => rfl
  have he : ((s.monitor.completion? ev).any fun c => s.monitor.scheduled? = some c.1) = false := by
    cases hc : s.monitor.completion? ev with
    | none => rfl
    | some c => exact decide_eq_false (hend c hc)
  unfold after
  dsimp only
  rw [hm, hb, he]
  rfl

theorem after_of_schedule_eq {ev : MonitorEvent} {m : Monitor}
    (hm : (s.monitor.step s.now ev).1 = m) (hs : m.schedule = s.monitor.schedule)
    (hend : ∀ c, s.monitor.completion? ev = some c → s.monitor.scheduled? ≠ some c.1) :
    s.after ev = { s with monitor := m } := by
  refine after_eq hm (fun hnone => ?_) hend
  unfold Monitor.scheduled? at hnone ⊢
  rwa [hs]

theorem OnGrid.withMonitor (h : s.OnGrid clock period t₀) {m : Monitor} (ho : m.Orderly)
    (hheld : m.holdsSchedule = s.monitor.holdsSchedule) (hstop : m.stopped = s.monitor.stopped)
    (hs : m.schedule = s.monitor.schedule) : OnGrid clock period t₀ { s with monitor := m } where
  orderly := ho
  held := hheld.trans h.held
  goesOn := hstop.trans h.goesOn
  past := h.past
  begun := h.begun
  stage := by
    cases h.stage with
    | waiting hs' hlen he hnow => exact .waiting (hs.trans hs') hlen he hnow
    | ticked hs' hlen he hnow => exact .ticked (hs.trans hs') hlen he hnow
    | probing hs' hlen => exact .probing (hs.trans hs') hlen
    | broken hs' hlen => exact .broken (hs.trans hs') hlen
    | beyond hs' hnone hlate => exact .beyond (hs.trans hs') hnone hlate
    | overran hs' hnone hlate => exact .overran (hs.trans hs') hnone hlate

section
variable {ev : MonitorEvent} {period' next n : Nat} {m : Monitor}

/-- A tick is taken as soon as it is due and the probe before it has ended. -/
theorem OnGrid.ticked (h : s.OnGrid clock period t₀) (hm : (s.monitor.step s.now .takeTick).1 = m)
    (ho : m.Orderly) (hheld : m.holdsSchedule = true) (hstop : m.stopped = false)
    (hs : s.monitor.schedule = some ⟨period', next, .idle⟩)
    (hs' : m.schedule = some ⟨period', next + period', .ticked⟩) (hd : next ≤ s.now) :
    (s.after .takeTick).OnGrid clock period t₀ := by
  cases h.stage with
  | ticked hstage | probing hstage | broken hstage | beyond hstage | overran hstage =>
    cases hs.symm.trans hstage
  | @waiting e hstage hlen he hnow =>
    cases hs.symm.trans hstage
    have hafter : s.after .takeTick = { s with monitor := m } :=
      after_eq hm (fun _ => by simp [Monitor.scheduled?, hs']) (by simp [Monitor.completion?])
    have hpast := h.past e (List.mem_of_getElem? he)
    have hnext : t₀ + (s.begins.length + 1) * period + period =
        t₀ + (s.begins.length + 2) * period := by
      rw [Nat.add_assoc, ← Nat.succ_mul]
    rw [hnext] at hs'
    rw [hafter]
    exact ⟨ho, hheld, hstop, h.past, h.begun,
      .ticked hs' hlen he (Nat.le_antisymm hnow (Nat.max_le.2 ⟨hd, hpast⟩))⟩

theorem OnGrid.began (h : s.OnGrid clock period t₀) (hm : (s.monitor.step s.now .useTick).1 = m)
    (ho : m.Orderly) (hheld : m.holdsSchedule = true) (hstop : m.stopped = false)
    (hs : s.monitor.schedule = some ⟨period', next, .ticked⟩)
    (hs' : m.schedule = some ⟨period', next, .probing n⟩) :
    (s.after .useTick).OnGrid clock period t₀ := by
  cases h.stage with
  | waiting hstage | probing hstage | broken hstage | beyond hstage | overran hstage =>
    cases hs.symm.trans hstage
  | @ticked e hstage hlen he hnow =>
    cases hs.symm.trans hstage
    have hafter : s.after .useTick = { s with monitor := m, begins := s.begins ++ [s.now] } := by
      have hold : s.monitor.scheduled? = none := by simp [Monitor.scheduled?, hs]
      have hnew : m.scheduled? = some n := by simp [Monitor.scheduled?, hs']
      unfold after
      dsimp only
      rw [hm, hold, hnew]
      rfl
    have hlength : (s.begins ++ [s.now]).length = s.begins.length + 1 := by simp
    rw [hafter]
    refine ⟨ho, hheld, hstop, h.past, fun k t hk => ?_, ?_⟩
    · obtain ⟨hlt, -⟩ := List.getElem?_eq_some_iff.1 hk
      rw [hlength] at hlt
      rcases Nat.lt_succ_iff_lt_or_eq.1 hlt with hlt | rfl
      · rw [List.getElem?_append_left hlt] at hk
        exact h.begun k t hk
      · rw [List.getElem?_concat_length, Option.some.injEq] at hk
        exact ⟨e, he, hk ▸ hnow⟩
    · exact .probing (by rw [hs', hlength]) (by rw [hlen, hlength])

/-- The probe of the schedule ends, and the next one is due as the grid has it. -/
theorem OnGrid.completed {r : ProbeResult} (h : s.OnGrid clock period t₀)
    (hm : (s.monitor.step s.now (.answered n r)).1 = m) (ho : m.Orderly)
    (hn : s.monitor.isInFlight n = true) (hheld : m.holdsSchedule = true)
    (hstop : m.stopped = false)
    (hs' : m.schedule = s.monitor.schedule.map (Schedule.resume · n)) :
    (s.after (.answered n r)).OnGrid clock period t₀ := by
  by_cases hs : s.monitor.scheduled? = some n
  · obtain ⟨period', next, hsched⟩ := Monitor.scheduled?_iff.1 hs
    cases h.stage with
    | waiting hstage | ticked hstage | broken hstage | beyond hstage | overran hstage =>
      cases hsched.symm.trans hstage
    | probing hstage hlen =>
      cases hsched.symm.trans hstage
      rw [hsched, Option.map_some, Schedule.resume, if_pos rfl] at hs'
      have hafter : s.after (.answered n r) =
          { s with monitor := m, ends := s.ends ++ [s.now] } := by
        unfold after
        dsimp only
        rw [hm, hs, Monitor.completion?, if_pos hn, Option.any_some, decide_eq_true rfl]
        rfl
      rw [hafter]
      refine ⟨ho, hheld, hstop, fun e he => ?_, fun k t hk => ?_, ?_⟩
      · rcases List.mem_append.1 he with he | he
        · exact h.past e he
        · exact Nat.le_of_eq (List.mem_singleton.1 he)
      · obtain ⟨e, he, ht⟩ := h.begun k t hk
        obtain ⟨hlt, -⟩ := List.getElem?_eq_some_iff.1 he
        exact ⟨e, by rw [List.getElem?_append_left hlt, he], ht⟩
      · exact .waiting hs' (by simp [hlen]) (by simp [← hlen]) (Nat.le_max_right _ _)
  · have hsame := Monitor.schedule_resume_of_ne hs
    have hno : ∀ c, s.monitor.completion? (.answered n r) = some c →
        s.monitor.scheduled? ≠ some c.1 := by
      intro c hc
      obtain ⟨hev, -⟩ := Monitor.completion?_eq_some hc
      cases hev
      exact hs
    rw [after_of_schedule_eq hm (hs'.trans hsame) hno]
    exact h.withMonitor ho (hheld.trans h.held.symm) (hstop.trans h.goesOn.symm) (hs'.trans hsame)

theorem OnGrid.brokeDown (h : s.OnGrid clock period t₀) (hm : (s.monitor.step s.now .breakDown).1 = m)
    (ho : m.Orderly) (hheld : m.holdsSchedule = true) (hstop : m.stopped = false)
    (hs : s.monitor.schedule = some ⟨period', next, .probing n⟩)
    (hs' : m.schedule = some ⟨period', next, .broken⟩) :
    (s.after .breakDown).OnGrid clock period t₀ := by
  cases h.stage with
  | waiting hstage | ticked hstage | broken hstage | beyond hstage | overran hstage =>
    cases hs.symm.trans hstage
  | probing hstage hlen =>
    cases hs.symm.trans hstage
    have hafter : s.after .breakDown = { s with monitor := m } :=
      after_eq hm (fun _ => by simp [Monitor.scheduled?, hs']) (by simp [Monitor.completion?])
    rw [hafter]
    exact ⟨ho, hheld, hstop, h.past, h.begun, .broken hs' hlen⟩

/-- The schedule breaks down at its first turn. -/
theorem OnGrid.overran (h : s.OnGrid clock period t₀)
    (hm : (s.monitor.step s.now .takeTick).1 = m) (ho : m.Orderly) (hheld : m.holdsSchedule = true)
    (hstop : m.stopped = false) (hs : s.monitor.schedule = some ⟨period', next, .beyond⟩)
    (hs' : m.schedule = some ⟨period', next, .broken⟩) :
    (s.after .takeTick).OnGrid clock period t₀ := by
  cases h.stage with
  | waiting hstage | ticked hstage | probing hstage | broken hstage | overran hstage =>
    cases hs.symm.trans hstage
  | beyond hstage hnone hlate =>
    cases hs.symm.trans hstage
    have hafter : s.after .takeTick = { s with monitor := m } :=
      after_eq hm (fun _ => by simp [Monitor.scheduled?, hs']) (by simp [Monitor.completion?])
    rw [hafter]
    exact ⟨ho, hheld, hstop, h.past, h.begun, .overran hs' hnone hlate⟩

end

theorem OnGrid.event (h : s.OnGrid clock period t₀) {ev : MonitorEvent} (hstop : ev ≠ .stop)
    (hdrop : ev ≠ .drop) (hshut : ev ≠ .shutdown) : (s.after ev).OnGrid clock period t₀ := by
  have ho := h.orderly.step s.now ev
  rcases s.monitor.step_change s.now ev with hsame | hc
  · -- an event that changes nothing completes nothing
    have hno : s.monitor.completion? ev = none := by
      cases hcomp : s.monitor.completion? ev with
      | none => rfl
      | some c =>
        have hgone := (Monitor.step_completed hcomp s.now).2.1
        rw [hsame, (Monitor.completion?_eq_some hcomp).2] at hgone
        cases hgone
    rw [after_of_schedule_eq hsame rfl (by simp [hno])]
    exact h
  · generalize hm : (s.monitor.step s.now ev).1 = m' at hc ho
    cases hc with
    | read | check | gaveUp =>
      rw [after_of_schedule_eq hm rfl (by simp [Monitor.completion?])]
      exact h.withMonitor ho rfl rfl rfl
    | @completed n r hn => exact h.completed hm ho hn h.held h.goesOn rfl
    | scheduled hs =>
      cases h.stage with
      | waiting hs' | ticked hs' | probing hs' | broken hs' | beyond hs' | overran hs' =>
        cases hs.symm.trans hs'
    | overran hs => exact h.overran hm ho h.held h.goesOn hs rfl
    | ticked hs hr hd => exact h.ticked hm ho h.held hr hs rfl hd
    | began hs hr => exact h.began hm ho h.held hr hs rfl
    | haltedIdle hs hr => cases h.goesOn.symm.trans hr
    | haltedTicked hs hr => cases h.goesOn.symm.trans hr
    | brokeDown hs => exact h.brokeDown hm ho h.held h.goesOn hs rfl
    | stopped => exact absurd rfl hstop
    | dropped => exact absurd rfl hdrop
    | shutDown => exact absurd rfl hshut
    | abortedProbe hh => cases h.held.symm.trans hh
    | abortedWait hh => cases h.held.symm.trans hh

theorem OnGrid.step (h : s.OnGrid clock period t₀) (hs : s.Step s') : s'.OnGrid clock period t₀ := by
  cases hs with
  | event _ hstop hdrop hshut => exact h.event hstop hdrop hshut
  | pass hq => exact h.pass hq

theorem OnGrid.run (h : s.OnGrid clock period t₀) (hr : s.Run s') : s'.OnGrid clock period t₀ := by
  induction hr with
  | refl => exact h
  | step _ hs ih => exact ih.step hs

theorem monitor_start {plan : MonitorPlan} (hp : plan.period = some period) (clock : Clock)
    (t₀ e₀ : Nat) (r : ProbeResult) : (start clock plan t₀ e₀ r).monitor =
      ((Monitor.new plan.target).run
        [(t₀, .check), (e₀, .answered 0 r), (e₀, .schedule clock t₀ period)]).1 := by
  simp [start, MonitorDraft.start, MonitorDraft.complete, hp, Monitor.run, Monitor.step,
    Monitor.new, Monitor.beginProbe, Monitor.endProbe, Monitor.forget]

theorem schedule_start {plan : MonitorPlan} (hp : plan.period = some period) (clock : Clock)
    (t₀ e₀ : Nat) (r : ProbeResult) :
    (start clock plan t₀ e₀ r).monitor.schedule = some (.start clock t₀ period) := by
  simp [start, MonitorDraft.complete, MonitorDraft.start, hp, Monitor.scheduleFrom]

theorem onGrid_start {plan : MonitorPlan} (hp : plan.period = some period) (clock : Clock)
    (t₀ e₀ : Nat) (r : ProbeResult) : (start clock plan t₀ e₀ r).OnGrid clock period t₀ where
  orderly := by
    rw [monitor_start hp]
    exact (Monitor.orderly_new plan.target).run _
  held := by simp [start, MonitorDraft.complete, MonitorDraft.start, hp, Monitor.scheduleFrom]
  goesOn := by
    rw [monitor_start hp]
    rfl
  past e he := Nat.le_of_eq (List.mem_singleton.1 he)
  begun k t hk := by cases hk
  stage := by
    have hs := schedule_start hp clock t₀ e₀ r
    by_cases hreach : t₀ + period ≤ clock.last
    · refine .waiting (e := e₀) ?_ rfl rfl (Nat.le_max_right _ _)
      have hgrid : t₀ + period = t₀ + (0 + 1) * period := by rw [Nat.zero_add, Nat.one_mul]
      rw [hs, Schedule.start, if_pos (Clock.reaches_iff.2 hreach), hgrid]
      rfl
    · rw [Schedule.start, if_neg (mt Clock.reaches_iff.1 hreach)] at hs
      exact .beyond hs rfl (Nat.not_le.1 hreach)

/-- What is due and is not held up begins in time. -/
theorem OnGrid.begun_of_lt (h : s.OnGrid clock period t₀) {k e : Nat} (he : s.ends[k]? = some e)
    (hlt : due period t₀ k e < s.now) (hnow : s.now ≤ clock.last) :
    ∃ t, s.begins[k]? = some t := by
  obtain ⟨hk, -⟩ := List.getElem?_eq_some_iff.1 he
  have hbegun (hb : k < s.begins.length) : ∃ t, s.begins[k]? = some t :=
    ⟨_, List.getElem?_eq_getElem hb⟩
  -- a probe that has not begun is the one that comes next
  have hlate {e' : Nat} (hlen : s.ends.length = s.begins.length + 1)
      (he' : s.ends[s.begins.length]? = some e') (hnow : s.now ≤ due period t₀ s.begins.length e') :
      ∃ t, s.begins[k]? = some t := by
    rw [hlen] at hk
    rcases Nat.lt_succ_iff_lt_or_eq.1 hk with hb | rfl
    · exact hbegun hb
    · cases he.symm.trans he'
      omega
  cases h.stage with
  | waiting hs hlen he' hnow => exact hlate hlen he' hnow
  | ticked hs hlen he' hnow => exact hlate hlen he' (Nat.le_of_eq hnow)
  | probing hs hlen => exact hbegun (hlen ▸ hk)
  | broken hs hlen => exact hbegun (hlen ▸ hk)
  | beyond hs hnone hlate | overran hs hnone hlate =>
    have hfirst : t₀ + period ≤ due period t₀ k e :=
      Nat.le_trans (Nat.add_le_add_left (Nat.le_mul_of_pos_left period k.succ_pos) t₀)
        (Nat.le_max_left _ _)
    omega

/-! ## Time goes on -/

theorem Run.pass (h : s.Run s') (hq : s'.Quiet) : ∃ s'', s.Run s'' ∧ s''.now = s'.now + 1 :=
  ⟨_, h.step (.pass hq), rfl⟩

theorem quiet_of_schedule {u : Schedule} (hs : s.monitor.schedule = some u)
    (hidle : u.phase ≠ .idle) (hbeyond : u.phase ≠ .beyond) (hticked : u.phase ≠ .ticked) :
    s.Quiet := by
  obtain ⟨p, next, phase⟩ := u
  constructor
  · unfold Monitor.takeTick
    split
    · rename_i hs'
      cases hs.symm.trans hs'
      exact absurd rfl hbeyond
    · rename_i hs'
      cases hs.symm.trans hs'
      exact absurd rfl hidle
    · rfl
  · unfold Monitor.useTick
    split
    · rename_i hs'
      cases hs.symm.trans hs'
      exact absurd rfl hticked
    · rfl

/-- The schedule takes and uses a tick in no time. -/
theorem OnGrid.exists_later (h : s.OnGrid clock period t₀) : ∃ s', s.Run s' ∧ s'.now = s.now + 1 := by
  have huse {s₁ : Paced} (hr : s.Run s₁) (hnow : s₁.now = s.now) {p next : Nat}
      (hs : s₁.monitor.schedule = some ⟨p, next, .ticked⟩) :
      ∃ s', s.Run s' ∧ s'.now = s.now + 1 := by
    have hstop := (h.run hr).goesOn
    have hs' : (s₁.after .useTick).monitor.schedule =
        some ⟨p, next, .probing s₁.monitor.begun⟩ := by
      simp [after, Monitor.step, Monitor.useTick, hs, hstop, Monitor.beginProbe]
    have hrun := hr.step (.event .useTick (by simp) (by simp) (by simp))
    have hlater := hrun.pass (quiet_of_schedule hs' (by simp) (by simp) (by simp))
    rwa [show (s₁.after .useTick).now = s.now from hnow] at hlater
  cases h.stage with
  | @waiting e hs =>
    by_cases hd : t₀ + (s.begins.length + 1) * period ≤ s.now
    · have hs' : (s.after .takeTick).monitor.schedule = some ⟨period,
          t₀ + (s.begins.length + 1) * period + period, .ticked⟩ := by
        simp [after, Monitor.step, Monitor.takeTick, hs, h.goesOn, hd]
      exact huse (Run.refl.step (.event .takeTick (by simp) (by simp) (by simp))) rfl hs'
    · refine Run.refl.pass ⟨?_, ?_⟩
      · simp [Monitor.takeTick, hs, h.goesOn, hd]
      · simp [Monitor.useTick, hs]
  | ticked hs => exact huse .refl rfl hs
  | probing hs | broken hs | overran hs =>
    exact Run.refl.pass (quiet_of_schedule hs (by simp) (by simp) (by simp))
  | @beyond next hs =>
    have hs' : (s.after .takeTick).monitor.schedule = some ⟨period, next, .broken⟩ := by
      simp [after, Monitor.step, Monitor.takeTick, hs]
    exact (Run.refl.step (.event .takeTick (by simp) (by simp) (by simp))).pass
      (quiet_of_schedule hs' (by simp) (by simp) (by simp))

/-- **The schedule keeps a fixed rate.** Let the first probe of a monitor begin at `t₀` and end at
`e₀`, and let probes take as long as they like, while the monitor is not stopped. The `k`-th
scheduled probe begins `k` periods after `t₀`, or when the probe before it ends if that is later: at
no other time, and at that time without fail, as long as the clock goes. So no two overlap, no tick
is skipped after a slow one, and the schedule does not drift. -/
theorem fixed_rate {plan : MonitorPlan} (hp : plan.period = some period) (clock : Clock)
    (t₀ e₀ : Nat) (r : ProbeResult) (hr : (start clock plan t₀ e₀ r).Run s) :
    (∀ (k t : Nat), s.begins[k]? = some t →
      ∃ e, s.ends[k]? = some e ∧ t = max (t₀ + (k + 1) * period) e) ∧
    (∀ (k e : Nat), s.ends[k]? = some e → max (t₀ + (k + 1) * period) e < s.now →
      s.now ≤ clock.last → s.begins[k]? = some (max (t₀ + (k + 1) * period) e)) ∧
    ∃ s', s.Run s' ∧ s'.now = s.now + 1 := by
  have h := (onGrid_start hp clock t₀ e₀ r).run hr
  refine ⟨h.begun, fun k e he hlt hnow => ?_, h.exists_later⟩
  obtain ⟨t, ht⟩ := h.begun_of_lt he hlt hnow
  obtain ⟨e', he', rfl⟩ := h.begun k t ht
  cases he.symm.trans he'
  exact ht

/-- The first probe outlasts its tick, so the next one begins late, and the one after that in time
again. -/
theorem fixed_rate_backlog :
    let plan : MonitorPlan := ⟨⟨"a", .v4 10 0 0 5, ⟨none, [], ['/'], none⟩, none⟩, some 4⟩
    ∃ s, (start ⟨100⟩ plan 0 6 (.ok .ok)).Run s ∧ s.now = 8 ∧ s.begins = [6, 8] ∧ s.ends = [6, 7] ∧
      ∃ e, s.ends[1]? = some e ∧ 8 = max (0 + (1 + 1) * 4) e := by
  intro plan
  have begins {s' : Paced} (h : (start ⟨100⟩ plan 0 6 (.ok .ok)).Run s') :
      (start ⟨100⟩ plan 0 6 (.ok .ok)).Run ((s'.after .takeTick).after .useTick) :=
    (h.step (.event .takeTick (by simp) (by simp) (by simp))).step
      (.event .useTick (by simp) (by simp) (by simp))
  have hfirst := (begins .refl).step (.pass ⟨rfl, rfl⟩)
  have hended := hfirst.step (.event (.answered 1 (.ok .ok)) (by simp) (by simp) (by simp))
  have hsecond := begins (hended.step (.pass ⟨rfl, rfl⟩))
  exact ⟨_, hsecond, rfl, rfl, rfl, (fixed_rate rfl ⟨100⟩ 0 6 (.ok .ok) hsecond).1 1 8 rfl⟩

end Paced
end EndpointClient
