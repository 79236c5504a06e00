import EndpointClient.Proofs.Health.Query
import EndpointClient.Proofs.Health.Report

/-!
# EndpointClient.Proofs.Health.Summary

What summaries count, and when they begin.

* `Summaries` is a reporting as time goes by, with the summaries that it has completed.
  `Summaries.Step` is all that can happen: time passes while the reporting waits, it goes on, the
  probe that it waits for ends, it leaves, or anything happens to the monitors.
* `Summary.Reads` says that monitors are read one after another, and which of them are probed.
* `Stage` is how far the reporting is, and `OnRate` is the invariant: the summaries begun and the tick
  to come are on the grid of the period, and those completed have read all monitors.
  `OnRate.begun_or_left`: no tick is missed. `OnRate.exists_later`: nothing keeps time from passing.
* `summaries_at_fixed_rate`: each summary counts what it reads, and begins on its tick, or at the
  end of the summary before if that is later.

All times are milliseconds.
-/

namespace EndpointClient

/-! ## What summaries do -/

/-- What a summary does: the turn of a monitor comes, which keeps a state; a probe of a monitor
begins; and the probe that the summary waits for ends. -/
inductive SummaryMark where
  | turn (index : Nat) (kept : HealthState)
  | began (index number : Nat)
  | ended (index number : Nat) (r : ProbeResult)

/-- Whether a monitor is found healthy, at its turn or by its probe. -/
def SummaryMark.isHealthy : SummaryMark → Bool
  | .turn _ kept => kept.isHealthy
  | .began _ _ => false
  | .ended _ _ r => r.state.isHealthy

/-- How a monitor is read: it is trusted, or probed. -/
inductive MonitorRead where
  | trusted (index : Nat)
  | probed (index number : Nat) (r : ProbeResult)

namespace MonitorRead

def index : MonitorRead → Nat
  | .trusted i => i
  | .probed i _ _ => i

/-- What a summary does to read a monitor. -/
def marks : MonitorRead → List SummaryMark
  | .trusted i => [.turn i .healthy]
  | .probed i n r => [.turn i .unhealthy, .began i n, .ended i n r]

theorem countP_probed (i n : Nat) (r : ProbeResult) :
    (probed i n r).marks.countP (·.isHealthy) = if r.state.isHealthy then 1 else 0 := by
  have hturn : HealthState.unhealthy.isHealthy = false := rfl
  simp [marks, List.countP_cons, SummaryMark.isHealthy, hturn]

end MonitorRead

/-- A completed summary: when it ended, and what it did, in order. -/
structure Summary where
  ended : Nat
  marks : List SummaryMark

namespace Summary

/-- These are the reads of the first `size` monitors, one after another, and nothing else. -/
def Reads (size : Nat) (marks : List SummaryMark) : Prop :=
  ∃ reads : List MonitorRead, reads.map MonitorRead.index = List.range size ∧
    marks = reads.flatMap MonitorRead.marks

def healthy (x : Summary) : Nat := x.marks.countP (·.isHealthy)

variable {i : Nat} {marks : List SummaryMark}

theorem reads_zero : Reads 0 [] := ⟨[], rfl, rfl⟩

theorem Reads.next (h : Reads i marks) {x : MonitorRead} (hx : x.index = i) :
    Reads (i + 1) (marks ++ x.marks) := by
  obtain ⟨reads, hindex, rfl⟩ := h
  exact ⟨reads ++ [x], by simp [hindex, hx, List.range_succ], by simp⟩

end Summary

def Happening.summary? : Happening → Option (Nat × Nat)
  | .summarized healthy total => some (healthy, total)
  | _ => none

/-- The summaries that were logged, the earliest first: how many monitors were healthy, and of how
many. -/
def Journal.summaries (j : Journal) : List (Nat × Nat) := j.reverse.filterMap Happening.summary?

theorem Journal.summaries_append (later j : Journal) :
    Journal.summaries (later ++ j) = j.summaries ++ later.summaries := by
  simp [summaries]

theorem Monitor.summaries_step (m : Monitor) (now : Nat) (ev : MonitorEvent) :
    (m.step now ev).2.summaries = [] := by
  refine List.filterMap_eq_nil_iff.2 fun e he => ?_
  rcases log_cases (List.mem_reverse.1 he) with ⟨_, _, p, -, -, rfl⟩ | ⟨d, rfl⟩ | rfl | ⟨d, rfl⟩ <;>
    rfl

/-- The probes that were begun on the way to monitors from what they were before, each with the
place of its monitor. -/
def begunFrom (place : Nat) : List Monitor → List Monitor → List (Nat × Nat)
  | before :: befores, m :: ms =>
    (m.begunSince before).map (place, ·) ++ begunFrom (place + 1) befores ms
  | _, _ => []

theorem begunFrom_self (place : Nat) (ms : List Monitor) : begunFrom place ms ms = [] := by
  induction ms generalizing place with
  | nil => rfl
  | cons m ms ih => simp [begunFrom, ih]

theorem begunFrom_set {ms : List Monitor} {i : Nat} {before : Monitor} (h : ms[i]? = some before)
    (place : Nat) (m : Monitor) :
    begunFrom place ms (ms.set i m) = (m.begunSince before).map (place + i, ·) := by
  induction ms generalizing place i with
  | nil => cases h
  | cons x ms ih =>
    cases i with
    | zero =>
      cases h
      simp [begunFrom, begunFrom_self]
    | succ i =>
      rw [List.set_cons_succ, begunFrom, ih h, Monitor.begunSince_self, Nat.add_right_comm]
      rfl

/-- A reporting as time goes by: when its summaries began, what the one under way has done, and
those that are completed, the earliest first; and when the reporting left. -/
structure Summaries where
  now : Nat
  report : Report
  monitors : List Monitor
  journal : Journal
  begins : List Nat
  marks : List SummaryMark
  complete : List Summary
  left : Option Nat

namespace Summaries

def start (clock : Clock) (t₀ period : Nat) (ms : List Monitor) : Summaries :=
  ⟨t₀, .start clock t₀ period, ms, [], [], [], [], none⟩

/-- The reporting goes on, with the probes that begin with that. -/
def moved (s : Summaries) (marks : List SummaryMark) (r : Report) (ms : List Monitor)
    (j : Journal) : Summaries :=
  { s with
    report := r
    monitors := ms
    journal := j ++ s.journal
    marks := s.marks ++ marks ++ (begunFrom 0 s.monitors ms).map fun (i, n) => .began i n }

/-- The summary under way is completed. -/
def close (s : Summaries) : Summaries :=
  { s with marks := [], complete := s.complete ++ [⟨s.now, s.marks⟩] }

/-- The next step of the reporting. It begins a summary, comes to the turn of a monitor, or has read
them all. -/
def advanced (s : Summaries) (r : Report) (ms : List Monitor) (j : Journal) : Summaries :=
  match s.report.phase with
  | .waiting => { s.moved [] r ms j with begins := s.begins ++ [s.now] }
  | .reading i _ =>
    match s.monitors[i]? with
    | some m => s.moved [.turn i m.state] r ms j
    | none => (s.moved [] r ms j).close
  | _ => s.moved [] r ms j

/-- The reporting hears the signal, at any time, and ends. -/
def leave (s : Summaries) : Summaries :=
  let (r, ms) := s.report.stop s.monitors
  { s with report := r, monitors := ms, left := some s.now }

def event (s : Summaries) (i : Nat) (ev : MonitorEvent) : Summaries :=
  { s with
    monitors := s.monitors.modify i fun m => (m.step s.now ev).1
    journal := (s.monitors[i]?.elim [] fun m => (m.step s.now ev).2) ++ s.journal }

/-- What happens. The engine answers the probe that the reporting waits for with any result, at any
time or never, and nobody else ends or drops it. -/
inductive Step (s : Summaries) : Summaries → Prop where
  | pass (hq : s.report.advance s.now s.monitors = none) : Step s { s with now := s.now + 1 }
  | advance {r : Report} {ms : List Monitor} {j : Journal}
      (h : s.report.advance s.now s.monitors = some (r, ms, j)) : Step s (s.advanced r ms j)
  | resume (result : ProbeResult) {i n : Nat} {r : Report} {ms : List Monitor} {j : Journal}
      (hw : s.report.awaited? = some (i, n))
      (h : s.report.resume s.now result s.monitors = some (r, ms, j)) :
      Step s (s.moved [.ended i n result] r ms j)
  | leave (hp : s.report.phase ≠ .stopped) (hb : s.report.phase ≠ .broken) : Step s s.leave
  | event {i : Nat} {ev : MonitorEvent}
      (hev : ∀ n, s.report.awaited? = some (i, n) → ¬ ev.Removes n) : Step s (s.event i ev)

inductive Run (s : Summaries) : Summaries → Prop where
  | refl : Run s s
  | step {s' s'' : Summaries} (h : Run s s') (hs : s'.Step s'') : Run s s''

variable {clock : Clock} {t₀ period size i n : Nat} {s s' : Summaries} {r : Report}
  {ms : List Monitor} {j : Journal} {ev : MonitorEvent} {m m' : Monitor}

/-- When summaries ended. In front stands the beginning of the reporting. -/
def ends (t₀ : Nat) (s : Summaries) : List Nat := t₀ :: s.complete.map Summary.ended

/-- How far the reporting is. -/
inductive Stage (clock : Clock) (t₀ size : Nat) (s : Summaries) : Prop where
  | waiting {e : Nat} (hp : s.report.phase = .waiting) (hleft : s.left = none)
      (hlen : s.begins.length = s.complete.length) (hmarks : s.marks = [])
      (he : (s.ends t₀)[s.begins.length]? = some e) (hnow : s.now ≤ max s.report.next e)
  | reading {i healthy : Nat} (hp : s.report.phase = .reading i healthy) (hleft : s.left = none)
      (hlen : s.begins.length = s.complete.length + 1) (hi : i ≤ size)
      (hreads : Summary.Reads i s.marks) (hcount : healthy = s.marks.countP (·.isHealthy))
  | probing {i healthy n : Nat} {m : Monitor} {before : List SummaryMark}
      (hp : s.report.phase = .probing i healthy n) (hleft : s.left = none)
      (hlen : s.begins.length = s.complete.length + 1) (hreads : Summary.Reads i before)
      (hcount : healthy = before.countP (·.isHealthy))
      (hmarks : s.marks = before ++ [.turn i .unhealthy, .began i n])
      (hm : s.monitors[i]? = some m) (hn : m.isInFlight n = true) (hs : m.scheduled? ≠ some n)
  | stopped {t : Nat} (hp : s.report.phase = .stopped) (hleft : s.left = some t)
      (hlen : s.complete.length ≤ s.begins.length)
      (hlate : ∀ e, (s.ends t₀)[s.begins.length]? = some e → t ≤ max s.report.next e)
  | broken (hp : s.report.phase = .broken) (hbegins : s.begins = []) (hcomplete : s.complete = [])
      (hbeyond : clock.last < s.report.next)

/-- The reporting keeps its rate: each summary has begun on its tick or at the end of the one before,
the next tick is still to come, and each completed summary has read all monitors and was logged. -/
structure OnRate (clock : Clock) (t₀ period size : Nat) (s : Summaries) : Prop where
  orderly : ∀ m ∈ s.monitors, m.Orderly
  length : s.monitors.length = size
  periodic : s.report.period = period
  next : s.report.next = t₀ + (s.begins.length + 1) * period
  past : ∀ e ∈ s.ends t₀, e ≤ s.now
  begun : ∀ (k t : Nat), s.begins[k]? = some t → t ≤ s.now ∧
    ∃ e, (s.ends t₀)[k]? = some e ∧ t = max (t₀ + (k + 1) * period) e
  complete : ∀ (k : Nat) (x : Summary), s.complete[k]? = some x → Summary.Reads size x.marks ∧
    ∃ t, s.begins[k]? = some t ∧ t ≤ x.ended
  logged : s.journal.summaries = s.complete.map fun x => (x.healthy, size)
  stage : s.Stage clock t₀ size

theorem onRate_start (ho : ∀ m ∈ ms, m.Orderly) (clock : Clock) (t₀ period : Nat) :
    (start clock t₀ period ms).OnRate clock t₀ period ms.length where
  orderly := ho
  length := rfl
  periodic := rfl
  next := by simp [start, Report.start]
  past e he := Nat.le_of_eq (List.mem_singleton.1 he)
  begun k t hk := by cases hk
  complete k x hk := by cases hk
  logged := rfl
  stage := by
    rcases Nat.lt_or_ge clock.last (t₀ + period) with hlt | hle
    · exact .broken (congrArg Report.phase (Report.start_of_beyond hlt)) rfl rfl hlt
    · exact .waiting (congrArg Report.phase (Report.start_of_reaches hle)) rfl rfl rfl rfl
        (Nat.le_max_right _ _)

/-! ## Time passes -/

theorem OnRate.pass (h : s.OnRate clock t₀ period size)
    (hq : s.report.advance s.now s.monitors = none) :
    OnRate clock t₀ period size { s with now := s.now + 1 } where
  orderly := h.orderly
  length := h.length
  periodic := h.periodic
  next := h.next
  past e he := Nat.le_succ_of_le (h.past e he)
  begun k t hk := ⟨Nat.le_succ_of_le (h.begun k t hk).1, (h.begun k t hk).2⟩
  complete := h.complete
  logged := h.logged
  stage := by
    have hwaits := Report.advance_eq_none.1 hq
    cases h.stage with
    | waiting hp hleft hlen hmarks he hnow =>
      refine .waiting hp hleft hlen hmarks he ?_
      cases hwaits with
      | tick hp' hd => exact Nat.le_trans hd (Nat.le_max_left _ _)
      | probe hp' => cases hp.symm.trans hp'
      | stopped hp' | broken hp' => cases hp.symm.trans hp'
    | reading hp =>
      cases hwaits with
      | tick hp' => cases hp.symm.trans hp'
      | probe hp' => cases hp.symm.trans hp'
      | stopped hp' | broken hp' => cases hp.symm.trans hp'
    | probing hp hleft hlen hreads hcount hmarks hm hn hs =>
      exact .probing hp hleft hlen hreads hcount hmarks hm hn hs
    | stopped hp hleft hlen hlate => exact .stopped hp hleft hlen hlate
    | broken hp hbegins hcomplete hbeyond => exact .broken hp hbegins hcomplete hbeyond

/-! ## The reporting goes on -/

theorem OnRate.ticked (h : s.OnRate clock t₀ period size) (hp : s.report.phase = .waiting)
    (hd : s.report.next ≤ s.now) :
    (s.advanced { s.report with next := s.report.next + s.report.period, phase := .reading 0 0 }
      s.monitors []).OnRate clock t₀ period size := by
  cases h.stage with
  | reading hp' | probing hp' | stopped hp' | broken hp' => cases hp.symm.trans hp'
  | @waiting e _ hleft hlen hmarks he hnow =>
    -- the tick is due and the summary before has ended, but not earlier than now
    have hpast := h.past e (List.mem_of_getElem? he)
    have htime : s.now = max s.report.next e := Nat.le_antisymm hnow (Nat.max_le.2 ⟨hd, hpast⟩)
    have hadvanced : s.advanced
        { s.report with next := s.report.next + s.report.period, phase := .reading 0 0 }
        s.monitors [] = { s with
          report := { s.report with next := s.report.next + s.report.period, phase := .reading 0 0 }
          begins := s.begins ++ [s.now] } := by
      simp [advanced, moved, hp, begunFrom_self]
    have hlength : (s.begins ++ [s.now]).length = s.begins.length + 1 := by simp
    rw [hadvanced]
    refine ⟨h.orderly, h.length, h.periodic, ?_, h.past, fun k t hk => ?_, fun k x hk => ?_,
      h.logged, ?_⟩
    · dsimp only
      rw [h.next, h.periodic, hlength, Nat.add_assoc, ← Nat.succ_mul]
    · rcases Monitor.getElem?_concat_cases hk with hold | ⟨rfl, rfl⟩
      · exact h.begun k t hold
      · exact ⟨Nat.le_refl _, e, he, h.next ▸ htime⟩
    · obtain ⟨hreads, t, ht, hle⟩ := h.complete k x hk
      obtain ⟨hlt, -⟩ := List.getElem?_eq_some_iff.1 ht
      exact ⟨hreads, t, by rw [List.getElem?_append_left hlt, ht], hle⟩
    · refine .reading rfl hleft (by rw [hlength, hlen]) (Nat.zero_le _) ?_ ?_
      · rw [hmarks]
        exact Summary.reads_zero
      · rw [hmarks]
        rfl

theorem OnRate.summarized (h : s.OnRate clock t₀ period size) {healthy : Nat}
    (hp : s.report.phase = .reading i healthy) (hm : s.monitors[i]? = none) :
    (s.advanced { s.report with phase := .waiting } s.monitors
      [.summarized healthy s.monitors.length]).OnRate clock t₀ period size := by
  cases h.stage with
  | waiting hp' | probing hp' | stopped hp' | broken hp' => cases hp.symm.trans hp'
  | reading hp' hleft hlen hi hreads hcount =>
    cases hp.symm.trans hp'
    have hsize : i = size :=
      Nat.le_antisymm hi (h.length ▸ List.getElem?_eq_none_iff.1 hm)
    subst hsize
    have hadvanced : s.advanced { s.report with phase := .waiting } s.monitors
        [.summarized healthy s.monitors.length] = { s with
          report := { s.report with phase := .waiting }
          journal := .summarized healthy s.monitors.length :: s.journal
          marks := []
          complete := s.complete ++ [⟨s.now, s.marks⟩] } := by
      simp [advanced, moved, close, hp, hm, begunFrom_self]
    rw [hadvanced]
    refine ⟨h.orderly, h.length, h.periodic, h.next, fun e he => ?_, fun k t hk => ?_,
      fun k x hk => ?_, ?_, ?_⟩
    · rw [ends, List.map_append, ← List.cons_append] at he
      rcases List.mem_append.1 he with he | he
      · exact h.past e he
      · exact Nat.le_of_eq (List.mem_singleton.1 he)
    · obtain ⟨hle, e, he, ht⟩ := h.begun k t hk
      obtain ⟨hlt, -⟩ := List.getElem?_eq_some_iff.1 he
      refine ⟨hle, e, ?_, ht⟩
      rw [ends, List.map_append, ← List.cons_append]
      exact (List.getElem?_append_left hlt).trans he
    · rcases Monitor.getElem?_concat_cases hk with hold | ⟨rfl, rfl⟩
      · exact h.complete k x hold
      · have hlast : s.complete.length < s.begins.length := by omega
        have hbegan := List.getElem?_eq_getElem hlast
        exact ⟨hreads, _, hbegan, (h.begun _ _ hbegan).1⟩
    · rw [← List.singleton_append, Journal.summaries_append, h.logged, List.map_append, h.length,
        hcount]
      rfl
    · refine .waiting (e := s.now) rfl hleft (by simp [hlen]) rfl ?_ (Nat.le_max_right _ _)
      simp [ends, hlen]

theorem OnRate.during (h : s.OnRate clock t₀ period size) {marks : List SummaryMark}
    {left : Option Nat} (ho : ∀ m ∈ ms, m.Orderly) (hlength : ms.length = s.monitors.length)
    (hr : r.next = s.report.next ∧ r.period = s.report.period) (hj : Journal.summaries j = [])
    (hstage : Stage clock t₀ size { s with
      report := r, monitors := ms, journal := j ++ s.journal, marks := marks, left := left }) :
    OnRate clock t₀ period size { s with
      report := r, monitors := ms, journal := j ++ s.journal, marks := marks, left := left } where
  orderly := ho
  length := hlength.trans h.length
  periodic := hr.2.trans h.periodic
  next := hr.1.trans h.next
  past := h.past
  begun := h.begun
  complete := h.complete
  logged := by
    rw [Journal.summaries_append, hj, List.append_nil]
    exact h.logged
  stage := hstage

theorem lt_size (h : s.OnRate clock t₀ period size) (hm : s.monitors[i]? = some m) : i < size :=
  h.length ▸ (List.getElem?_eq_some_iff.1 hm).1

/-- A monitor that is healthy at its turn is trusted. -/
theorem OnRate.read (h : s.OnRate clock t₀ period size) {healthy : Nat}
    (hp : s.report.phase = .reading i healthy) (hm : s.monitors[i]? = some m)
    (hs : m.state.isHealthy = true) :
    (s.advanced (s.report.afterRead i healthy m).1 s.monitors
      (s.report.afterRead i healthy m).2).OnRate clock t₀ period size := by
  cases h.stage with
  | waiting hp' | probing hp' | stopped hp' | broken hp' => cases hp.symm.trans hp'
  | reading hp' hleft hlen hi hreads hcount =>
    cases hp.symm.trans hp'
    have hstate : m.state = .healthy := by
      cases hst : m.state with
      | healthy => rfl
      | unhealthy => simp [hst, HealthState.isHealthy] at hs
    have hadvanced : s.advanced (s.report.afterRead i healthy m).1 s.monitors
        (s.report.afterRead i healthy m).2 = { s with
          report := (s.report.afterRead i healthy m).1
          journal := (s.report.afterRead i healthy m).2 ++ s.journal
          marks := s.marks ++ [.turn i m.state] } := by
      simp [advanced, moved, hp, hm, begunFrom_self]
    rw [hadvanced]
    refine h.during h.orderly rfl ⟨rfl, rfl⟩ rfl
      (.reading rfl hleft hlen (lt_size h hm) ?_ ?_)
    · rw [hstate]
      exact hreads.next (x := .trusted i) rfl
    · simp [hcount, hs, SummaryMark.isHealthy]

/-- A monitor that is unhealthy at its turn is probed. -/
theorem OnRate.began (h : s.OnRate clock t₀ period size) {healthy : Nat}
    (hp : s.report.phase = .reading i healthy) (hm : s.monitors[i]? = some m)
    (hs : m.state.isHealthy = false) :
    (s.advanced { s.report with phase := .probing i healthy m.begun }
      (s.monitors.set i (m.beginProbe s.now).1) []).OnRate clock t₀ period size := by
  cases h.stage with
  | waiting hp' | probing hp' | stopped hp' | broken hp' => cases hp.symm.trans hp'
  | reading hp' hleft hlen hi hreads hcount =>
    cases hp.symm.trans hp'
    have hturn : s.report.Turn s.now s.monitors _ _ _ := .began hp hm hs
    have horderly := h.orderly m (List.mem_of_getElem? hm)
    have hstate : m.state = .unhealthy := by
      cases hst : m.state with
      | healthy => simp [hst, HealthState.isHealthy] at hs
      | unhealthy => rfl
    have hadvanced : s.advanced { s.report with phase := .probing i healthy m.begun }
        (s.monitors.set i (m.beginProbe s.now).1) [] = { s with
          report := { s.report with phase := .probing i healthy m.begun }
          monitors := s.monitors.set i (m.beginProbe s.now).1
          marks := s.marks ++ [.turn i .unhealthy, .began i m.begun] } := by
      simp [advanced, moved, hp, hm, begunFrom_set hm, hstate]
    rw [hadvanced]
    refine h.during (j := []) (hturn.orderly h.orderly) (by simp) ⟨rfl, rfl⟩ rfl
      (.probing rfl hleft hlen hreads hcount rfl
        (List.getElem?_set_self (List.getElem?_eq_some_iff.1 hm).1) ?_ ?_)
    · simp [Monitor.isInFlight_beginProbe]
    · intro hs'
      exact absurd (horderly.numbered _ (horderly.scheduled _ hs')) (Nat.lt_irrefl _)

theorem OnRate.advance (h : s.OnRate clock t₀ period size)
    (hadv : s.report.advance s.now s.monitors = some (r, ms, j)) :
    (s.advanced r ms j).OnRate clock t₀ period size := by
  cases Report.advance_turn hadv with
  | ticked hp hd => exact h.ticked hp hd
  | summarized hp hm => exact h.summarized hp hm
  | read hp hm hs => exact h.read hp hm hs
  | began hp hm hs => exact h.began hp hm hs
  | answered hp hm hn =>
    cases h.stage with
    | waiting hp' | reading hp' | stopped hp' | broken hp' => cases hp.symm.trans hp'
    | probing hp' hleft hlen hreads hcount hmarks hm' hn' =>
      cases hp.symm.trans hp'
      cases hm.symm.trans hm'
      cases hn.symm.trans hn'

/-! ## The probe that is waited for ends -/

theorem OnRate.resume (h : s.OnRate clock t₀ period size) {result : ProbeResult}
    (hw : s.report.awaited? = some (i, n))
    (hres : s.report.resume s.now result s.monitors = some (r, ms, j)) :
    (s.moved [.ended i n result] r ms j).OnRate clock t₀ period size := by
  obtain ⟨healthy, hp⟩ := Report.awaited?_iff.1 hw
  cases h.stage with
  | waiting hp' | reading hp' | stopped hp' | broken hp' => cases hp.symm.trans hp'
  | @probing i healthy n m before hp' hleft hlen hreads hcount hmarks hm hn hs =>
    cases hp.symm.trans hp'
    rw [Report.resume_of_inFlight hp hm hn] at hres
    cases hres
    have hbegun : (m.step s.now (.answered n result)).1.begunSince m = [] :=
      m.begunSince_endProbe n s.now result
    have hmoved (r : Report) (j : Journal) : s.moved [.ended i n result] r
        (s.monitors.set i (m.step s.now (.answered n result)).1) j = { s with
          report := r
          monitors := s.monitors.set i (m.step s.now (.answered n result)).1
          journal := j ++ s.journal
          marks := before ++ (MonitorRead.probed i n result).marks } := by
      simp [moved, begunFrom_set hm, hbegun, hmarks, MonitorRead.marks]
    rw [hmoved]
    refine h.during
      (Monitor.orderly_set h.orderly i ((h.orderly m (List.mem_of_getElem? hm)).step s.now _))
      (by simp) ⟨rfl, rfl⟩ ?_ (.reading rfl hleft hlen (lt_size h hm) (hreads.next rfl) ?_)
    · rw [← List.singleton_append, Journal.summaries_append, Monitor.summaries_step]
      rfl
    · rw [hcount, List.countP_append, MonitorRead.countP_probed]

/-! ## The reporting leaves, and what happens to monitors -/

theorem OnRate.leave (h : s.OnRate clock t₀ period size) (hp : s.report.phase ≠ .stopped)
    (hb : s.report.phase ≠ .broken) : s.leave.OnRate clock t₀ period size := by
  have hlength : (s.report.stop s.monitors).2.length = s.monitors.length := by
    simpa using congrArg List.length (s.report.stop_states s.monitors)
  refine h.during (j := []) (Report.orderly_stop h.orderly ?_) hlength
    (s.report.stop_next s.monitors) rfl ?_
  · intro i n m hwait hm
    obtain ⟨healthy, hp'⟩ := Report.awaited?_iff.1 hwait
    cases h.stage with
    | waiting hp'' | reading hp'' | stopped hp'' | broken hp'' => cases hp'.symm.trans hp''
    | probing hp'' _ _ _ _ _ hm' _ hs =>
      cases hp'.symm.trans hp''
      cases hm.symm.trans hm'
      exact hs
  · have hphase := s.report.stop_phase s.monitors
    have hnext := (s.report.stop_next s.monitors).1
    cases h.stage with
    | @waiting e _ _ hlen _ he hnow =>
      refine .stopped hphase rfl (Nat.le_of_eq hlen.symm) fun e' he' => ?_
      cases he.symm.trans he'
      exact Nat.le_trans hnow (Nat.le_of_eq (congrArg (max · e) hnext.symm))
    | reading _ _ hlen | probing _ _ hlen =>
      refine .stopped hphase rfl (by simp [hlen]) fun e' he' => ?_
      simp [ends, hlen] at he'
    | stopped hp' => exact absurd hp' hp
    | broken hp' => exact absurd hp' hb

theorem OnRate.event (h : s.OnRate clock t₀ period size)
    (hev : ∀ n, s.report.awaited? = some (i, n) → ¬ ev.Removes n) :
    (s.event i ev).OnRate clock t₀ period size := by
  refine h.during (Monitor.orderly_modify_step h.orderly i s.now ev) (by simp) ⟨rfl, rfl⟩ ?_ ?_
  · cases s.monitors[i]? with
    | none => rfl
    | some m => exact m.summaries_step s.now ev
  · cases h.stage with
    | waiting hp hleft hlen hmarks he hnow => exact .waiting hp hleft hlen hmarks he hnow
    | reading hp hleft hlen hi hreads hcount => exact .reading hp hleft hlen hi hreads hcount
    | stopped hp hleft hlen hlate => exact .stopped hp hleft hlen hlate
    | broken hp hbegins hcomplete hbeyond => exact .broken hp hbegins hcomplete hbeyond
    | @probing k healthy n m before hp hleft hlen hreads hcount hmarks hm hn hs =>
      have hk : k < (s.event i ev).monitors.length := by
        simpa [Summaries.event] using (List.getElem?_eq_some_iff.1 hm).1
      have hm' := List.getElem?_eq_getElem hk
      obtain ⟨m₀, hm₀, hsame | ⟨rfl, hc⟩⟩ := Monitor.getElem?_modify_step hm'
      · cases hm.symm.trans hm₀
        exact .probing hp hleft hlen hreads hcount hmarks (hsame ▸ hm') hn hs
      · cases hm.symm.trans hm₀
        obtain ⟨hn', hs'⟩ := hc.stays_inFlight (h.orderly m (List.mem_of_getElem? hm)) hn hs
          (hev n (Report.awaited?_iff.2 ⟨healthy, hp⟩))
        exact .probing hp hleft hlen hreads hcount hmarks hm' hn' hs'

/-! ## Runs -/

theorem OnRate.step (h : s.OnRate clock t₀ period size) (hs : s.Step s') :
    s'.OnRate clock t₀ period size := by
  cases hs with
  | pass hq => exact h.pass hq
  | advance hadv => exact h.advance hadv
  | resume result hw hres => exact h.resume hw hres
  | leave hp hb => exact h.leave hp hb
  | event hev => exact h.event hev

theorem OnRate.run (h : s.OnRate clock t₀ period size) (hr : s.Run s') :
    s'.OnRate clock t₀ period size := by
  induction hr with
  | refl => exact h
  | step _ hs ih => exact ih.step hs

/-- What is due and is not held up begins in time, unless the reporting has left by then. -/
theorem OnRate.begun_or_left (h : s.OnRate clock t₀ period size) {k e : Nat}
    (he : (s.ends t₀)[k]? = some e) (hlt : max (t₀ + (k + 1) * period) e < s.now)
    (hclock : s.now ≤ clock.last) : (∃ t, s.begins[k]? = some t) ∨
      ∃ t, s.left = some t ∧ t ≤ max (t₀ + (k + 1) * period) e := by
  have hk : k < s.complete.length + 1 := by
    simpa [ends] using (List.getElem?_eq_some_iff.1 he).1
  by_cases hb : k < s.begins.length
  · exact .inl ⟨_, List.getElem?_eq_getElem hb⟩
  -- a summary that has not begun is the one that comes next
  · have hnext : k = s.begins.length → s.report.next = t₀ + (k + 1) * period := by
      rintro rfl
      exact h.next
    cases h.stage with
    | waiting hp hleft hlen hmarks he' hnow =>
      have hk' : k = s.begins.length := by omega
      rw [hnext hk'] at hnow
      subst hk'
      cases he.symm.trans he'
      omega
    | reading hp hleft hlen | probing hp hleft hlen => omega
    | @stopped t hp hleft hlen hlate =>
      have hk' : k = s.begins.length := by omega
      rw [hnext hk'] at hlate
      subst hk'
      exact .inr ⟨t, hleft, hlate e he⟩
    | broken hp hbegins hcomplete hbeyond =>
      have hk' : k = s.begins.length := by simp [hbegins, hcomplete] at hk ⊢; omega
      rw [hnext hk'] at hbeyond
      omega

/-! ## Time goes on -/

/-- How much a reporting has left to do before it has to wait. -/
def rest (size : Nat) : ReportPhase → Nat
  | .waiting => 0
  | .reading i _ => 2 * (size - i) + 2
  | .probing i _ _ => 2 * (size - i) + 1
  | .stopped => 0
  | .broken => 0

/-- A turn comes nearer to where the reporting has to wait, to the latest tick or in a summary. -/
theorem rest_turn (hperiod : 0 < r.period) {now : Nat} {ms' : List Monitor} {r' : Report}
    (ht : r.Turn now ms r' ms' j) :
    Prod.Lex (· < ·) (· < ·) (now + 1 - r'.next, rest ms'.length r'.phase)
      (now + 1 - r.next, rest ms.length r.phase) := by
  cases ht with
  | ticked hp hd =>
    refine .left _ _ ?_
    dsimp only
    omega
  | summarized hp =>
    refine .right _ ?_
    rw [hp]
    exact Nat.succ_pos _
  | @read i healthy m hp hm | @answered i healthy n m hp hm =>
    have hlt := (List.getElem?_eq_some_iff.1 hm).1
    refine .right _ ?_
    simp only [hp, Report.afterRead, rest]
    omega
  | @began i healthy m hp hm =>
    refine .right _ ?_
    simp only [hp, rest, List.length_set]
    omega

/-- The reporting comes to where it has to wait in no time. -/
theorem OnRate.exists_waiting {s₀ s : Summaries} (h : s.OnRate clock t₀ period size)
    (hperiod : 0 < period) (hr : s₀.Run s) : ∃ s', s₀.Run s' ∧ s'.now = s.now ∧
      s'.report.advance s'.now s'.monitors = none := by
  cases hadv : s.report.advance s.now s.monitors with
  | none => exact ⟨s, hr, rfl, hadv⟩
  | some u =>
    obtain ⟨r, ms, j⟩ := u
    obtain ⟨hnow, hreport, hmonitors⟩ : (s.advanced r ms j).now = s.now ∧
        (s.advanced r ms j).report = r ∧ (s.advanced r ms j).monitors = ms := by
      unfold advanced
      split
      · exact ⟨rfl, rfl, rfl⟩
      · split <;> exact ⟨rfl, rfl, rfl⟩
      · exact ⟨rfl, rfl, rfl⟩
    have hless := rest_turn (h.periodic ▸ hperiod) (Report.advance_turn hadv)
    obtain ⟨s', hr', hnow', hwaits⟩ :=
      (h.advance hadv).exists_waiting hperiod (hr.step (.advance hadv))
    exact ⟨s', hr', hnow'.trans hnow, hwaits⟩
termination_by (s.now + 1 - s.report.next, rest s.monitors.length s.report.phase)
decreasing_by
  rw [hnow, hreport, hmonitors]
  exact hless

theorem OnRate.exists_later (h : s.OnRate clock t₀ period size) (hperiod : 0 < period) :
    ∃ s', s.Run s' ∧ s'.now = s.now + 1 := by
  obtain ⟨s', hr, hnow, hwaits⟩ := h.exists_waiting hperiod .refl
  exact ⟨_, hr.step (.pass hwaits), congrArg (· + 1) hnow⟩

/-- **Summaries count rightly and keep their rate.** Let the reporting begin at `t₀`, with monitors
that are probed, stopped and shut down meanwhile in any way, and let its own probes end in any way
and take as long as they like. Each completed summary reads all monitors, one after another in their
order. It begins a probe of those that keep an unhealthy state when their turn comes, of no others,
and goes on when that ends. It logs how many there are, and how many were healthy at their turn or
by their probe.

The `k`-th summary begins `k` periods after `t₀`, or when the one before it ended if that is later:
at no other time, and as long as the clock lasts at that time without fail unless the reporting has
left by then. So no tick is skipped after a slow summary, and no two overlap. -/
theorem summaries_at_fixed_rate (hperiod : 0 < period) (ho : ∀ m ∈ ms, m.Orderly)
    (hr : (start clock t₀ period ms).Run s) :
    (∀ x ∈ s.complete, Summary.Reads ms.length x.marks) ∧
    s.journal.summaries = s.complete.map (fun x => (x.healthy, ms.length)) ∧
    (∀ (k t : Nat), s.begins[k]? = some t →
      ∃ e, (s.ends t₀)[k]? = some e ∧ t = max (t₀ + (k + 1) * period) e) ∧
    (∀ (k : Nat) (x : Summary), s.complete[k]? = some x →
      ∃ t, s.begins[k]? = some t ∧ t ≤ x.ended) ∧
    (∀ (k e : Nat), (s.ends t₀)[k]? = some e → max (t₀ + (k + 1) * period) e < s.now →
      s.now ≤ clock.last → s.begins[k]? = some (max (t₀ + (k + 1) * period) e) ∨
      ∃ t, s.left = some t ∧ t ≤ max (t₀ + (k + 1) * period) e) ∧
    ∃ s', s.Run s' ∧ s'.now = s.now + 1 := by
  have h := (onRate_start ho clock t₀ period).run hr
  refine ⟨fun x hx => ?_, h.logged, fun k t hk => (h.begun k t hk).2,
    fun k x hk => (h.complete k x hk).2, fun k e he hlt hclock => ?_, h.exists_later hperiod⟩
  · obtain ⟨k, hk⟩ := List.mem_iff_getElem?.1 hx
    exact (h.complete k x hk).1
  · refine (h.begun_or_left he hlt hclock).imp_left ?_
    rintro ⟨t, ht⟩
    obtain ⟨-, e', he', rfl⟩ := h.begun k t ht
    cases he.symm.trans he'
    exact ht

def probedTarget : ProbeTarget := ⟨"a", .v4 10 0 0 5, ⟨none, [], ['/'], none⟩, none⟩

/-- A monitor whose first probe came to a result. -/
def probedOnce (r : ProbeResult) : Monitor :=
  ((Monitor.new probedTarget).run [(0, .check), (0, .answered 0 r)]).1

/-- The probe of the first summary outlasts the tick of the second one, so this begins late, and the
third one in time again. -/
theorem summaries_at_fixed_rate_backlog :
    ∃ s, (start ⟨100⟩ 0 2 [probedOnce (.ok .ok), probedOnce (.error .cancelled)]).Run s ∧
      s.begins = [2, 5, 6] ∧ s.complete.map Summary.ended = [5, 5] ∧
      s.journal.summaries = [(2, 2), (2, 2)] ∧ ∃ x ∈ s.complete, Summary.Reads 2 x.marks ∧
        x.marks = [.turn 0 .healthy, .turn 1 .unhealthy, .began 1 1, .ended 1 1 (.ok .ok)] := by
  have ho : ∀ m ∈ [probedOnce (.ok .ok), probedOnce (.error .cancelled)], m.Orderly := by
    intro m hm
    simp only [List.mem_cons, List.not_mem_nil, or_false] at hm
    rcases hm with rfl | rfl <;> exact (Monitor.orderly_new _).run _
  let s₀ := start ⟨100⟩ 0 2 [probedOnce (.ok .ok), probedOnce (.error .cancelled)]
  obtain ⟨s₁, hprobing, h₁⟩ : ∃ s, s₀.Run s ∧ s = ⟨5, ⟨2, 4, .probing 1 1 1⟩,
      [probedOnce (.ok .ok), ((probedOnce (.error .cancelled)).beginProbe 2).1],
      [.seen probedTarget .healthy], [2],
      [.turn 0 .healthy, .turn 1 .unhealthy, .began 1 1], [], none⟩ :=
    ⟨_, ((((((((Run.refl.step (.pass rfl)).step (.pass rfl)).step (.advance rfl)).step
      (.advance rfl)).step (.advance rfl)).step (.pass rfl)).step (.pass rfl)).step (.pass rfl)),
      rfl⟩
  subst h₁
  have hlate := (((((hprobing.step (.resume (.ok .ok) rfl rfl)).step (.advance rfl)).step
    (.advance rfl)).step (.advance rfl)).step (.advance rfl)).step (.advance rfl)
  have hthird := (hlate.step (.pass rfl)).step (.advance rfl)
  obtain ⟨hreads, -⟩ := summaries_at_fixed_rate (by decide) ho hthird
  exact ⟨_, hthird, rfl, rfl, rfl, _, List.mem_cons_self, hreads _ List.mem_cons_self, rfl⟩

end Summaries

end EndpointClient
