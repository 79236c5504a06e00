import EndpointClient.Proofs.Health.LastProbe
import EndpointClient.Proofs.Health.Report

/-!
# EndpointClient.Proofs.Health.Reporting

The end of the reporting by the signal, whatever it does at that moment.

* `Reporting` is a reporting as time goes by, with the channel that it listens to. `Reporting.Step`
  is all that can happen: the reporting goes on or hears the channel, in any order if both are
  possible; signals are given and handles come and go; and anything happens to the monitors.
* `OnDuty`: the reporting does what it does at its ticks and at the ends of its probes, and nothing
  after the signal. No step breaks that (`OnDuty.step`). The reporting does things only while it is
  `Busy`, at its ticks and when its probes end, and only up to its `horizon`, the moment of the
  signal; and a probe of the reporting is in flight only while the reporting waits for it (`Own`).
* `IsBroken`: reporting whose first tick is beyond the clock breaks down at its start, and neither
  does anything nor hears the signal (`IsBroken.run`).
* `returns_without_trace`: a signal at a moment at which the reporting is not busy ends it then and
  there, unless it broke down. `never_returns` is one that did.

All times are milliseconds.
-/

namespace EndpointClient

/-- What the reporting does, and what comes of its probes. -/
inductive ReportMark where
  | began (index number : Nat)
  | ended (index number : Nat)
  | summarized
  deriving DecidableEq

/-- A reporting as time goes by, with the channel that it listens to: when the signal was first
given or the last handle went away, when the reporting returned, and what it did, the latest
first. -/
structure Reporting where
  now : Nat
  report : Report
  monitors : List Monitor
  channel : Shutdown
  listener : Listener
  journal : Journal
  signalled : Option Nat
  returned : Option Nat
  trail : List (Nat × ReportMark)

namespace Reporting

/-- Reporting begins. What its listener has not heard by then counts as signalled now. -/
def start (clock : Clock) (t₀ period : Nat) (ms : List Monitor) (c : Shutdown) (l : Listener) :
    Reporting :=
  ⟨t₀, .start clock t₀ period, ms, c, l, [],
    if l.heard < c.given ∨ c.handles = 0 then some t₀ else none, none, []⟩

/-- What a turn of the reporting leaves in its trail. -/
def marks (r : Report) (j : Journal) : List ReportMark :=
  (r.awaited?.map fun (i, n) => .began i n).toList ++ j.filterMap fun
    | .summarized _ _ => some .summarized
    | _ => none

def moved (s : Reporting) (r : Report) (ms : List Monitor) (j : Journal) : Reporting :=
  { s with
    report := r
    monitors := ms
    journal := j ++ s.journal
    trail := (marks r j).map (s.now, ·) ++ s.trail }

def leave (s : Reporting) : Reporting :=
  let (r, ms) := s.report.stop s.monitors
  { s with
    report := r
    monitors := ms
    listener := (s.listener.receive s.channel).2
    returned := some s.now }

/-- Whether the reporting has begun a probe. -/
def began (s : Reporting) (i n : Nat) : Bool := s.trail.any (·.2 = .began i n)

/-- The mark of an event that ends a probe of the reporting. -/
def mark? (s : Reporting) (i : Nat) (m : Monitor) (ev : MonitorEvent) : Option ReportMark :=
  match m.completion? ev with
  | some (n, _) => if s.began i n then some (.ended i n) else none
  | none => none

def event (s : Reporting) (i : Nat) (ev : MonitorEvent) : Reporting :=
  { s with
    monitors := s.monitors.modify i fun m => (m.step s.now ev).1
    journal := (s.monitors[i]?.elim [] fun m => (m.step s.now ev).2) ++ s.journal
    trail := ((s.monitors[i]?.bind (s.mark? i · ev)).map (s.now, ·)).toList ++ s.trail }

/-- When there was first something to hear, if there is now. -/
def signal (s : Reporting) : Option Nat := s.signalled <|> some s.now

def Hears (s : Reporting) : Prop := (s.listener.receive s.channel).1 ≠ .nothingYet

/-- The reporting waits, has returned, or is broken and hears nothing. -/
def Quiet (s : Reporting) : Prop :=
  (s.returned = none → s.report.phase ≠ .broken → ¬ s.Hears) ∧
    s.report.advance s.now s.monitors = none

/-- What happens: time passes while the reporting waits, it goes on, it hears the channel, something
happens to the channel or to a monitor. Only the reporting drops the probe that it waits for. -/
inductive Step (s : Reporting) : Reporting → Prop where
  | pass (hq : s.Quiet) : Step s { s with now := s.now + 1 }
  | advance {r : Report} {ms : List Monitor} {j : Journal}
      (h : s.report.advance s.now s.monitors = some (r, ms, j)) : Step s (s.moved r ms j)
  | leave (hh : s.Hears) (hr : s.returned = none) (hb : s.report.phase ≠ .broken) : Step s s.leave
  | trigger (hc : 0 < s.channel.handles) :
      Step s { s with channel := s.channel.trigger.1, signalled := s.signal }
  | dropHandle (hc : 0 < s.channel.handles) :
      Step s
        { s with
          channel := s.channel.dropHandle
          signalled := if s.channel.handles = 1 then s.signal else s.signalled }
  | clone (hc : 0 < s.channel.handles) : Step s { s with channel := s.channel.clone }
  | subscribe (hc : 0 < s.channel.handles) : Step s { s with channel := s.channel.subscribe.1 }
  | dropListener (hc : s.returned = none → 1 < s.channel.listeners) :
      Step s { s with channel := s.channel.dropListener }
  | event {i : Nat} {ev : MonitorEvent}
      (hg : ∀ n, ev = .giveUp n → s.report.awaited? ≠ some (i, n)) : Step s (s.event i ev)

inductive Run (s : Reporting) : Reporting → Prop where
  | refl : Run s s
  | step {s' s'' : Reporting} (h : Run s s') (hs : s'.Step s'') : Run s s''

variable {clock : Clock} {t₀ period i k n : Nat} {s s' : Reporting} {r : Report} {m m' : Monitor}
  {ms : List Monitor} {j : Journal} {ev : MonitorEvent}

/-- Up to when the reporting does anything. -/
def horizon (s : Reporting) : Nat := s.signalled.getD s.now

/-- A tick is due, or a probe of the reporting ends. -/
def Busy (t₀ period : Nat) (s : Reporting) (t : Nat) : Prop :=
  (∃ k, t = t₀ + (k + 1) * period) ∨ ∃ i n, (t, ReportMark.ended i n) ∈ s.trail

/-- A probe of the reporting as its monitor has it. It is in flight only while the reporting waits
for it, and no schedule does. -/
structure Own (r : Report) (i n : Nat) (m : Monitor) : Prop where
  begun : n < m.begun
  awaited : m.isInFlight n = true → r.awaited? = some (i, n) ∧ m.scheduled? ≠ some n

/-- The reporting is on duty: it keeps to its ticks, has its own probes in flight only while it waits
for them, has done nothing but at its ticks and at the ends of its probes, and nothing after the
signal; and it is late with nothing, neither with a tick nor with the signal. -/
structure OnDuty (t₀ period : Nat) (s : Reporting) : Prop where
  whole : s.report.phase ≠ .broken
  orderly : ∀ m ∈ s.monitors, m.Orderly
  listens : s.returned = none → Listens s.channel s.listener s.signalled
  periodic : s.report.period = period
  ticks : ∃ k, s.report.next = t₀ + (k + 1) * period
  busy : s.report.advance s.now s.monitors ≠ none → s.Busy t₀ period s.now
  own : ∀ i n m, s.began i n = true → s.monitors[i]? = some m → Own s.report i n m
  awaited : ∀ i n, s.report.awaited? = some (i, n) → s.began i n = true
  trail : ∀ x ∈ s.trail, s.Busy t₀ period x.1 ∧ x.1 ≤ s.horizon
  prompt : s.returned = none → s.horizon = s.now
  finished : ∀ t, s.returned = some t → s.signalled = some t ∧ s.report.phase = .stopped

theorem Busy.mono {t : Nat} (h : s.Busy t₀ period t) (hsub : s.trail ⊆ s'.trail) :
    s'.Busy t₀ period t := by
  rcases h with hk | ⟨i, n, hmem⟩
  · exact .inl hk
  · exact .inr ⟨i, n, hsub hmem⟩

theorem OnDuty.not_returned (h : s.OnDuty t₀ period) (hp : s.report.phase ≠ .stopped) :
    s.returned = none := by
  cases hr : s.returned with
  | none => rfl
  | some t => exact absurd (h.finished t hr).2 hp

theorem OnDuty.not_returned_of_awaited (h : s.OnDuty t₀ period) {p : Nat × Nat}
    (hp : s.report.awaited? = some p) : s.returned = none := by
  refine h.not_returned fun hstop => ?_
  simp [Report.awaited?, hstop] at hp

/-! ## Time passes -/

theorem OnDuty.pass (h : s.OnDuty t₀ period) (hq : s.Quiet) :
    OnDuty t₀ period { s with now := s.now + 1 } where
  whole := h.whole
  orderly := h.orderly
  listens := h.listens
  periodic := h.periodic
  ticks := h.ticks
  busy hb := by
    rcases Report.advance_eq_none.1 hq.2 with ⟨hp, hd⟩ | ⟨hp, hn⟩ | hp | hp
    · obtain ⟨k, hk⟩ := h.ticks
      refine .inl ⟨k, hk ▸ Nat.le_antisymm hd (Nat.not_lt.1 fun hlt => ?_)⟩
      exact hb (Report.advance_eq_none.2 (.tick hp hlt))
    · exact absurd (Report.advance_eq_none.2 (.probe hp hn)) hb
    · exact absurd (Report.advance_eq_none.2 (.stopped hp)) hb
    · exact absurd hp h.whole
  own := h.own
  awaited := h.awaited
  trail x hx := by
    refine ⟨(h.trail x hx).1.mono (List.Subset.refl _), Nat.le_trans (h.trail x hx).2 ?_⟩
    unfold horizon
    cases s.signalled with
    | none => exact Nat.le_succ _
    | some t => exact Nat.le_refl _
  prompt hr := by
    have hnone : s.signalled = none :=
      Decidable.byContradiction fun hsome => hq.1 hr h.whole ((h.listens hr).hears_iff.2 hsome)
    simp [horizon, hnone]
  finished := h.finished

/-! ## The reporting goes on -/

theorem began_marks : .began i n ∈ marks r j ↔ r.awaited? = some (i, n) := by
  have hnever : ∀ e : Happening, (match e with
      | .summarized _ _ => some ReportMark.summarized
      | _ => none) ≠ some (.began i n) := by
    intro e
    cases e <;> simp
  simp [marks, hnever]

theorem began_iff : s.began i n = true ↔ ∃ t, (t, .began i n) ∈ s.trail := by
  simp [began]

theorem began_moved :
    (s.moved r ms j).began i n = true ↔ r.awaited? = some (i, n) ∨ s.began i n = true := by
  rw [← began_marks (j := j)]
  simp [began, moved]

/-- A probe that the reporting does not wait for is not in flight. -/
theorem Own.of_awaited_ne (h : Own r i n m) (hr : r.awaited? ≠ some (i, n)) (r' : Report) :
    Own r' i n m :=
  ⟨h.begun, fun hn => absurd (h.awaited hn).1 hr⟩

theorem Own.change {now : Nat} (h : Own r i n m) (hc : m.Change now ev m') : Own r i n m' where
  begun := Nat.lt_of_lt_of_le h.begun hc.begun_le
  awaited hn := by
    rcases hc.inFlight hn with hold | ⟨rfl, -⟩
    · obtain ⟨hwait, hfree⟩ := h.awaited hold
      refine ⟨hwait, fun hs => ?_⟩
      rcases hc.scheduled? hs with ⟨hs', -⟩ | ⟨-, -, rfl, -⟩
      · exact hfree hs'
      · exact absurd h.begun (Nat.lt_irrefl _)
    · exact absurd h.begun (Nat.lt_irrefl _)

theorem own_began {now : Nat} (h : m.Orderly) (hr : r.awaited? = some (i, m.begun)) :
    Own r i m.begun (m.beginProbe now).1 where
  begun := Nat.lt_succ_self _
  awaited _ := ⟨hr, fun hs => absurd (h.numbered _ (h.scheduled _ hs)) (Nat.lt_irrefl _)⟩

theorem OnDuty.own_moved (h : s.OnDuty t₀ period) (ht : s.report.Turn s.now s.monitors r ms j)
    (hb : r.awaited? = some (i, n) ∨ s.began i n = true) (hm : ms[i]? = some m) :
    Own r i n m := by
  -- a turn that begins no probe leaves none that the reporting waits for
  have hkept (hr : r.awaited? = none) (hms : ms = s.monitors)
      (hgone : s.report.awaited? = some (i, n) → m.isInFlight n = false) : Own r i n m := by
    subst hms
    have hown := h.own i n m (hb.resolve_left (by simp [hr])) hm
    refine ⟨hown.begun, fun hn => ?_⟩
    cases (hgone (hown.awaited hn).1).symm.trans hn
  cases ht with
  | ticked hp | summarized hp => exact hkept rfl rfl (by simp [Report.awaited?, hp])
  | read hp => exact hkept rfl rfl (by simp [Report.awaited?, hp])
  | @answered k healthy n' m' hp hm' hn' =>
    refine hkept rfl rfl fun hwait => ?_
    simp only [Report.awaited?, hp, Option.some.injEq, Prod.mk.injEq] at hwait
    obtain ⟨rfl, rfl⟩ := hwait
    cases hm'.symm.trans hm
    exact hn'
  | @began k healthy m₀ hp hm₀ hs =>
    have hidle : s.report.awaited? ≠ some (i, n) := by simp [Report.awaited?, hp]
    have horderly := h.orderly m₀ (List.mem_of_getElem? hm₀)
    by_cases hk : k = i
    · subst hk
      have hlt : k < s.monitors.length := (List.getElem?_eq_some_iff.1 hm₀).1
      rw [List.getElem?_set_self hlt, Option.some.injEq] at hm
      subst hm
      rcases hb with hb | hb
      · simp only [Report.awaited?, Option.some.injEq, Prod.mk.injEq, true_and] at hb
        subst hb
        exact own_began horderly rfl
      · exact ((h.own k n m₀ hb hm₀).of_awaited_ne hidle _).change .check
    · rw [List.getElem?_set_ne hk] at hm
      refine (h.own i n m (hb.resolve_left ?_) hm).of_awaited_ne hidle _
      simp [Report.awaited?, hk]

theorem OnDuty.moved (h : s.OnDuty t₀ period)
    (hadv : s.report.advance s.now s.monitors = some (r, ms, j)) :
    (s.moved r ms j).OnDuty t₀ period := by
  have hbusy := h.busy (by simp [hadv])
  have hret : s.returned = none := by
    refine h.not_returned fun hp => ?_
    cases hadv.symm.trans (Report.advance_eq_none.2 (.stopped hp))
  have ht := Report.advance_turn hadv
  have hsub : s.trail ⊆ (s.moved r ms j).trail := List.subset_append_right _ _
  obtain ⟨hperiod, hnext⟩ := ht.next
  exact {
    whole := ht.whole
    orderly := ht.orderly h.orderly
    listens := h.listens
    periodic := hperiod.trans h.periodic
    ticks := by
      obtain ⟨k, hk⟩ := h.ticks
      rcases hnext with hnext | hnext
      · exact ⟨k, hnext.trans hk⟩
      · refine ⟨k + 1, hnext.trans ?_⟩
        rw [hk, h.periodic, Nat.add_assoc, ← Nat.succ_mul]
    busy := fun _ => hbusy.mono hsub
    own := fun i n m hb hm => h.own_moved ht (began_moved.1 hb) hm
    awaited := fun i n hwait => began_moved.2 (.inl hwait)
    trail := fun x hx => by
      rcases List.mem_append.1 hx with hx | hx
      · obtain ⟨mark, -, rfl⟩ := List.mem_map.1 hx
        exact ⟨hbusy.mono hsub, Nat.le_of_eq (h.prompt hret).symm⟩
      · exact ⟨(h.trail x hx).1.mono hsub, (h.trail x hx).2⟩
    prompt := h.prompt
    finished := fun t hr => by cases hret.symm.trans hr }

/-! ## The reporting returns -/

theorem OnDuty.leave (h : s.OnDuty t₀ period) (hh : s.Hears) (hr : s.returned = none) :
    s.leave.OnDuty t₀ period := by
  have hsignalled : s.signalled = some s.now := by
    obtain ⟨t, ht⟩ := Option.ne_none_iff_exists'.1 ((h.listens hr).hears_iff.1 hh)
    have hprompt := h.prompt hr
    rw [horizon, ht, Option.getD_some] at hprompt
    rw [ht, hprompt]
  have hphase := s.report.stop_phase s.monitors
  obtain ⟨hnext, hperiod⟩ := s.report.stop_next s.monitors
  have hidle : s.leave.report.awaited? = none := by
    show (s.report.stop s.monitors).1.awaited? = none
    simp [Report.awaited?, hphase]
  have hfree {i n : Nat} {m : Monitor} (hm : s.monitors[i]? = some m)
      (hwait : s.report.awaited? = some (i, n)) : m.scheduled? ≠ some n := by
    intro hs
    have hflight := (h.orderly m (List.mem_of_getElem? hm)).scheduled n hs
    exact ((h.own i n m (h.awaited i n hwait) hm).awaited hflight).2 hs
  exact {
    whole := fun hb => by cases hphase.symm.trans hb
    orderly := Report.orderly_stop h.orderly fun _ _ _ hwait hm => hfree hm hwait
    listens := fun hnone => by cases hnone
    periodic := hperiod.trans h.periodic
    ticks := h.ticks.imp fun k hk => hnext.trans hk
    busy := fun hb => absurd (Report.advance_eq_none.2 (.stopped hphase)) hb
    own := fun i n m' hb hm' => by
      obtain ⟨m, hm, ⟨hne, rfl⟩ | ⟨k, hwait, rfl⟩⟩ := Report.getElem?_stop hm'
      · exact (h.own i n m' hb hm).of_awaited_ne (hne n) _
      · have hown := h.own i n m hb hm
        refine ⟨hown.begun, fun hn => ?_⟩
        rw [Monitor.dropProbe, Monitor.isInFlight_forget, Bool.and_eq_true, decide_eq_true_eq] at hn
        cases hwait.symm.trans (hown.awaited hn.1).1
        exact absurd rfl hn.2
    awaited := fun i n hwait => by cases hidle.symm.trans hwait
    trail := h.trail
    prompt := fun hnone => by cases hnone
    finished := fun t ht => by
      cases ht
      exact ⟨hsignalled, hphase⟩ }

/-! ## The channel -/

theorem horizon_signal {c : Shutdown} {signalled : Option Nat}
    (hs : signalled = s.signalled ∨ signalled = s.signal) :
    horizon { s with channel := c, signalled := signalled } = s.horizon := by
  rcases hs with rfl | rfl
  · rfl
  · unfold horizon signal
    cases s.signalled <;> rfl

theorem OnDuty.channel (h : s.OnDuty t₀ period) {c : Shutdown} {signalled : Option Nat}
    (hs : signalled = s.signalled ∨ signalled = s.signal)
    (hl : s.returned = none → Listens c s.listener signalled) :
    OnDuty t₀ period { s with channel := c, signalled := signalled } where
  whole := h.whole
  orderly := h.orderly
  listens := hl
  periodic := h.periodic
  ticks := h.ticks
  busy hb := h.busy hb
  own := h.own
  awaited := h.awaited
  trail x hx := ⟨(h.trail x hx).1, horizon_signal hs ▸ (h.trail x hx).2⟩
  prompt hr := (horizon_signal hs).trans (h.prompt hr)
  finished t hr := by
    obtain ⟨ht, hp⟩ := h.finished t hr
    refine ⟨?_, hp⟩
    rcases hs with rfl | rfl
    · exact ht
    · simp [signal, ht]

/-! ## The monitors -/

theorem mark?_eq_some {x : ReportMark} :
    s.mark? i m ev = some x ↔
      ∃ n r, m.completion? ev = some (n, r) ∧ s.began i n = true ∧ x = .ended i n := by
  cases hc : m.completion? ev with
  | none => simp [mark?, hc]
  | some c =>
    obtain ⟨k, r⟩ := c
    simp only [mark?, hc, Option.ite_none_right_eq_some, Option.some.injEq, Prod.mk.injEq]
    constructor
    · rintro ⟨hb, rfl⟩
      exact ⟨k, r, ⟨rfl, rfl⟩, hb, rfl⟩
    · rintro ⟨n, r', ⟨rfl, rfl⟩, hb, rfl⟩
      exact ⟨hb, rfl⟩

theorem mem_trail_event {x : Nat × ReportMark} :
    x ∈ (s.event i ev).trail ↔ x ∈ s.trail ∨ ∃ m n r, s.monitors[i]? = some m ∧
      m.completion? ev = some (n, r) ∧ s.began i n = true ∧ x = (s.now, .ended i n) := by
  simp only [Reporting.event, List.mem_append, Option.mem_toList, Option.map_eq_some_iff,
    Option.bind_eq_some_iff, mark?_eq_some]
  constructor
  · rintro (⟨-, ⟨m, hm, n, r, hc, hb, rfl⟩, rfl⟩ | hx)
    · exact .inr ⟨m, n, r, hm, hc, hb, rfl⟩
    · exact .inl hx
  · rintro (hx | ⟨m, n, r, hm, hc, hb, rfl⟩)
    · exact .inr hx
    · exact .inl ⟨_, ⟨m, hm, n, r, hc, hb, rfl⟩, rfl⟩

theorem began_event : (s.event i ev).began k n = true ↔ s.began k n = true := by
  simp [began_iff, mem_trail_event]

/-- The probe that the reporting waits for stays in flight, unless it ends. -/
theorem OnDuty.waits_event (h : s.OnDuty t₀ period)
    (hg : ∀ n, ev = .giveUp n → s.report.awaited? ≠ some (i, n))
    (hwait : s.report.awaited? = some (k, n))
    (hn : ∀ m, s.monitors[k]? = some m → m.isInFlight n = true)
    (hm' : (s.event i ev).monitors[k]? = some m') :
    m'.isInFlight n = true ∨ (s.now, .ended k n) ∈ (s.event i ev).trail := by
  obtain ⟨m, hm, rfl | ⟨rfl, hc⟩⟩ := Monitor.getElem?_modify_step hm'
  · exact .inl (hn m' hm)
  · have hbegan := h.awaited i n hwait
    have hfree := ((h.own i n m hbegan hm).awaited (hn m hm)).2
    by_cases ha : ∃ r, ev = .answered n r
    · obtain ⟨r, rfl⟩ := ha
      refine .inr (mem_trail_event.2 (.inr ⟨m, n, r, hm, ?_, hbegan, rfl⟩))
      simp [Monitor.completion?, hn m hm]
    · exact .inl (hc.inFlight_kept (hn m hm) hfree (fun e => hg n e hwait) fun r e => ha ⟨r, e⟩)

theorem OnDuty.event (h : s.OnDuty t₀ period)
    (hg : ∀ n, ev = .giveUp n → s.report.awaited? ≠ some (i, n)) :
    (s.event i ev).OnDuty t₀ period := by
  have hsub : s.trail ⊆ (s.event i ev).trail := fun x hx => mem_trail_event.2 (.inl hx)
  exact {
    whole := h.whole
    orderly := Monitor.orderly_modify_step h.orderly i s.now ev
    listens := h.listens
    periodic := h.periodic
    ticks := h.ticks
    busy := fun hb => by
      by_cases hold : s.report.advance s.now s.monitors = none
      · rcases Report.advance_eq_none.1 hold with
          ⟨hp, hd⟩ | @⟨k, healthy, n, hp, hn⟩ | hp | hp
        · exact absurd (Report.advance_eq_none.2 (.tick hp hd)) hb
        · refine .inr ⟨k, n, Decidable.byContradiction fun hnever => ?_⟩
          refine hb (Report.advance_eq_none.2 (.probe hp fun m' hm' => ?_))
          exact (h.waits_event hg (by simp [Report.awaited?, hp]) hn hm').resolve_right hnever
        · exact absurd (Report.advance_eq_none.2 (.stopped hp)) hb
        · exact absurd hp h.whole
      · exact (h.busy hold).mono hsub
    own := fun k n m' hb hm' => by
      obtain ⟨m, hm, rfl | ⟨-, hc⟩⟩ := Monitor.getElem?_modify_step hm'
      · exact h.own k n m' (began_event.1 hb) hm
      · exact (h.own k n m (began_event.1 hb) hm).change hc
    awaited := fun k n hwait => began_event.2 (h.awaited k n hwait)
    trail := fun x hx => by
      rcases mem_trail_event.1 hx with hold | ⟨m, n, r, hm, hc, hb, rfl⟩
      · exact ⟨(h.trail x hold).1.mono hsub, (h.trail x hold).2⟩
      · have hflight := (Monitor.completion?_eq_some hc).2
        have hwait := ((h.own i n m hb hm).awaited hflight).1
        have hprompt := h.prompt (h.not_returned_of_awaited hwait)
        exact ⟨.inr ⟨i, n, hx⟩, Nat.le_of_eq hprompt.symm⟩
    prompt := h.prompt
    finished := h.finished }

/-! ## Runs -/

theorem OnDuty.step (h : s.OnDuty t₀ period) (hs : s.Step s') : s'.OnDuty t₀ period := by
  cases hs with
  | pass hq => exact h.pass hq
  | advance hadv => exact h.moved hadv
  | leave hh hr _ => exact h.leave hh hr
  | trigger => exact h.channel (.inr rfl) fun hr => (h.listens hr).trigger s.now
  | dropHandle hc =>
    refine h.channel ?_ fun hr => (h.listens hr).dropHandle hc s.now
    split
    · exact .inr rfl
    · exact .inl rfl
  | clone hc => exact h.channel (.inl rfl) fun hr => (h.listens hr).clone hc
  | subscribe => exact h.channel (.inl rfl) fun hr => (h.listens hr).subscribe
  | dropListener hc => exact h.channel (.inl rfl) fun hr => (h.listens hr).dropListener (hc hr)
  | event hg => exact h.event hg

theorem OnDuty.run (h : s.OnDuty t₀ period) (hr : s.Run s') : s'.OnDuty t₀ period := by
  induction hr with
  | refl => exact h
  | step _ hs ih => exact ih.step hs

theorem onDuty_start (ho : ∀ m ∈ ms, m.Orderly) {c : Shutdown} {l : Listener}
    (hheard : l.heard ≤ c.given) (hcounted : 0 < c.listeners) (hreach : t₀ + period ≤ clock.last) :
    (start clock t₀ period ms c l).OnDuty t₀ period where
  whole := by simp [start, Report.start_of_reaches hreach]
  orderly := ho
  listens _ := by
    refine ⟨hheard, hcounted, ?_⟩
    show (if l.heard < c.given ∨ c.handles = 0 then some t₀ else none) = none ↔ _
    rw [ite_eq_right_iff]
    constructor
    · intro h
      have hsilent : ¬ (l.heard < c.given ∨ c.handles = 0) := fun hc => by cases h hc
      exact ⟨Nat.not_lt.1 fun hlt => hsilent (.inl hlt), fun hz => hsilent (.inr hz)⟩
    · rintro ⟨hle, hz⟩ (hlt | hzero)
      · exact absurd hlt (Nat.not_lt.2 hle)
      · exact absurd hzero hz
  periodic := rfl
  ticks := ⟨0, by simp [start, Report.start]⟩
  busy hb := by
    refine .inl ⟨0, ?_⟩
    have hdue : t₀ + period ≤ t₀ := Nat.not_lt.1 fun hlt =>
      hb (Report.advance_eq_none.2 (.tick (congrArg _ (Report.start_of_reaches hreach)) hlt))
    show t₀ = t₀ + (0 + 1) * period
    omega
  own i n m hb _ := by cases hb
  awaited i n hwait := by simp [start, Report.start_of_reaches hreach, Report.awaited?] at hwait
  trail x hx := by cases hx
  prompt _ := by
    show Option.getD (if l.heard < c.given ∨ c.handles = 0 then some t₀ else none) t₀ = t₀
    split <;> rfl
  finished t ht := by cases ht

/-! ## Reporting that breaks down at its start -/

/-- The reporting broke down at its start, and does nothing ever after. -/
structure IsBroken (s : Reporting) : Prop where
  phase : s.report.phase = .broken
  returned : s.returned = none
  trail : s.trail = []

theorem isBroken_start (hlate : clock.last < t₀ + period) (ms : List Monitor) (c : Shutdown)
    (l : Listener) : (start clock t₀ period ms c l).IsBroken where
  phase := by simp [start, Report.start_of_beyond hlate]
  returned := rfl
  trail := rfl

theorem IsBroken.step (h : s.IsBroken) (hs : s.Step s') : s'.IsBroken := by
  cases hs with
  | pass | trigger | dropHandle | clone | subscribe | dropListener =>
    exact ⟨h.phase, h.returned, h.trail⟩
  | advance hadv => cases (Report.advance_eq_none.2 (.broken h.phase)).symm.trans hadv
  | leave _ _ hb => exact absurd h.phase hb
  | @event i ev hg =>
    refine ⟨h.phase, h.returned, List.eq_nil_iff_forall_not_mem.2 fun x hx => ?_⟩
    -- only a probe of the reporting would leave something in the trail, and it has begun none
    rcases mem_trail_event.1 hx with hold | ⟨m, n, r, -, -, hb, -⟩
    · simp [h.trail] at hold
    · simp [began, h.trail] at hb

theorem IsBroken.run (h : s.IsBroken) (hr : s.Run s') : s'.IsBroken := by
  induction hr with
  | refl => exact h
  | step _ hs ih => exact ih.step hs

/-- Nothing keeps time from passing. -/
theorem IsBroken.quiet (h : s.IsBroken) : s.Quiet :=
  ⟨fun _ hb => absurd h.phase hb, Report.advance_eq_none.2 (.broken h.phase)⟩

/-! ## The end -/

/-- The answer to a probe that is not in flight changes nothing. -/
theorem event_answered_of_gone
    (h : ∀ m, s.monitors[i]? = some m → m.isInFlight n = false) (r : ProbeResult) :
    s.event i (.answered n r) = s := by
  have hmonitors :
      s.monitors.modify i (fun m => (m.step s.now (.answered n r)).1) = s.monitors := by
    refine List.ext_getElem? fun k => ?_
    rw [List.getElem?_modify]
    cases hm : s.monitors[k]? with
    | none => rfl
    | some m =>
      by_cases hk : i = k
      · subst hk
        simp [Monitor.step, Monitor.endProbe_of_idle (h m hm)]
      · simp [hk]
  have hjournal : (s.monitors[i]?.elim [] fun m => (m.step s.now (.answered n r)).2) = [] := by
    cases hm : s.monitors[i]? with
    | none => rfl
    | some m => simp [Monitor.step, Monitor.endProbe_of_idle (h m hm)]
  have hmark : s.monitors[i]?.bind (s.mark? i · (.answered n r)) = none := by
    cases hm : s.monitors[i]? with
    | none => rfl
    | some m => simp [mark?, Monitor.completion?, h m hm]
  unfold event
  rw [hmonitors, hjournal, hmark]
  rfl

/-- **Abandoned summaries leave no trace.** Let the signal be given for the first time, or the last
handle go away, at a time `t` at which no tick is due and no probe of the reporting ends; what was
signalled before the reporting began counts as signalled at its beginning.

Let the clock reach the first tick. As long as the reporting has not returned, it is still `t`, and
all that it can do is to return, which drops the probe that it waits for but touches no state and no
journal. Once it has returned, it did so at `t`, and an answer to any of its probes changes nothing at
all. All probes that it ever begins, and all summaries that it ever logs, come before `t`.

If the clock does not reach the first tick, the reporting breaks down at its start. It never returns,
begins no probe and logs no summary. -/
theorem returns_without_trace {ms : List Monitor} (ho : ∀ m ∈ ms, m.Orderly) {c : Shutdown}
    {l : Listener} (hheard : l.heard ≤ c.given) (hcounted : 0 < c.listeners)
    (hr : (start clock t₀ period ms c l).Run s) {t : Nat} (ht : s.signalled = some t)
    (htick : ∀ k, t ≠ t₀ + (k + 1) * period) (hprobe : ∀ i n, (t, .ended i n) ∉ s.trail) :
    (t₀ + period ≤ clock.last →
      (s.returned = none → s.now = t ∧ s.report.advance s.now s.monitors = none ∧ s.Step s.leave ∧
        s.leave.returned = some t ∧ s.leave.journal = s.journal ∧
        s.leave.monitors.map Monitor.state = s.monitors.map Monitor.state) ∧
      (∀ t', s.returned = some t' → t' = t ∧
        ∀ i n r, s.began i n = true → s.event i (.answered n r) = s) ∧
      ∀ x ∈ s.trail, x.1 < t) ∧
    (clock.last < t₀ + period → s.returned = none ∧ s.trail = []) := by
  refine ⟨fun hreach => ?_, fun hlate => ?_⟩
  · have h := (onDuty_start ho hheard hcounted hreach).run hr
    have hhorizon : s.horizon = t := by simp [horizon, ht]
    have hcalm : ¬ s.Busy t₀ period t := by
      rintro (⟨k, hk⟩ | ⟨i, n, hmem⟩)
      · exact htick k hk
      · exact hprobe i n hmem
    refine ⟨fun hreturned => ?_, fun t' ht' => ?_, fun x hx => ?_⟩
    · have hnow : s.now = t := (h.prompt hreturned).symm.trans hhorizon
      have hwaits : s.report.advance s.now s.monitors = none :=
        Decidable.byContradiction fun hb => hcalm (hnow ▸ h.busy hb)
      have hhears : s.Hears := (h.listens hreturned).hears_iff.2 (by simp [ht])
      exact ⟨hnow, hwaits, .leave hhears hreturned h.whole, congrArg some hnow, rfl,
        s.report.stop_states s.monitors⟩
    · obtain ⟨ht'', hphase⟩ := h.finished t' ht'
      cases ht.symm.trans ht''
      refine ⟨rfl, fun i n r hb => event_answered_of_gone (fun m hm => ?_) r⟩
      refine Bool.eq_false_iff.2 fun hn => ?_
      have hwait := ((h.own i n m hb hm).awaited hn).1
      simp [Report.awaited?, hphase] at hwait
    · obtain ⟨hbusy, hle⟩ := h.trail x hx
      rw [hhorizon] at hle
      exact Nat.lt_of_le_of_ne hle fun he => hcalm (he ▸ hbusy)
  · have hbroken := (isBroken_start hlate ms c l).run hr
    exact ⟨hbroken.returned, hbroken.trail⟩

/-- The signal is given twice, while a summary waits for a probe that is never answered. -/
theorem returns_without_trace_stuck :
    let m := ((Monitor.new ⟨"a", .v4 10 0 0 5, ⟨none, [], ['/'], none⟩, none⟩).run
      [(0, .check), (0, .answered 0 (.error .cancelled))]).1
    ∃ s, (start ⟨100⟩ 0 2 [m] Shutdown.new.subscribe.1 ⟨0⟩).Run s ∧ s.returned = some 3 ∧
      s.trail = [(2, .began 0 1)] ∧ ∀ r, s.event 0 (.answered 1 r) = s := by
  intro m
  have ho : ∀ m' ∈ [m], m'.Orderly := by
    intro m' hm'
    rw [List.mem_singleton.1 hm']
    exact (Monitor.orderly_new _).run _
  let s₀ := start ⟨100⟩ 0 2 [m] Shutdown.new.subscribe.1 ⟨0⟩
  have hwaiting : s₀.Run ⟨2, ⟨2, 2, .waiting⟩, [m], ⟨0, 1, 1⟩, ⟨0⟩, [], none, none, []⟩ :=
    (Run.refl.step (.pass ⟨fun _ _ h => h rfl, rfl⟩)).step (.pass ⟨fun _ _ h => h rfl, rfl⟩)
  have hreading : s₀.Run ⟨2, ⟨2, 4, .reading 0 0⟩, [m], ⟨0, 1, 1⟩, ⟨0⟩, [], none, none, []⟩ :=
    hwaiting.step (.advance (r := ⟨2, 4, .reading 0 0⟩) (j := []) rfl)
  have hprobing : s₀.Run ⟨2, ⟨2, 4, .probing 0 0 1⟩, [(m.beginProbe 2).1], ⟨0, 1, 1⟩, ⟨0⟩, [], none,
      none, [(2, .began 0 1)]⟩ :=
    hreading.step (.advance (r := ⟨2, 4, .probing 0 0 1⟩) (j := []) rfl)
  have hsignalled : s₀.Run ⟨3, ⟨2, 4, .probing 0 0 1⟩, [(m.beginProbe 2).1], ⟨2, 1, 1⟩, ⟨0⟩, [],
      some 3, none, [(2, .began 0 1)]⟩ :=
    ((hprobing.step (.pass ⟨fun _ _ h => h rfl, rfl⟩)).step (.trigger (by decide))).step
      (.trigger (by decide))
  have hreturned : s₀.Run ⟨3, ⟨2, 4, .stopped⟩, [(m.beginProbe 2).1.dropProbe 1], ⟨2, 1, 1⟩, ⟨1⟩,
      [], some 3, some 3, [(2, .began 0 1)]⟩ :=
    hsignalled.step (.leave (by simp [Hears, Listener.receive]) rfl (by simp))
  obtain ⟨hreturns, -⟩ := returns_without_trace ho (by decide) (by decide) hreturned rfl (by omega)
    (by simp)
  obtain ⟨-, hafter, -⟩ := hreturns (by decide)
  exact ⟨_, hreturned, rfl, rfl, fun r => (hafter 3 rfl).2 0 1 r rfl⟩

/-- The longest period that can be configured, on a clock that is a second old. The signal is given
after a millisecond, and the reporting does not return, then or later. -/
theorem never_returns :
    ∃ s, (start (.ofAge 1) 0 (9223372036854775807 * 1000) [] Shutdown.new.subscribe.1 ⟨0⟩).Run s ∧
      s.signalled = some 1 ∧ s.now = 2 ∧ ∀ s', s.Run s' → s'.returned = none := by
  have hlate : (Clock.ofAge 1).last < 0 + 9223372036854775807 * 1000 := by decide
  have hbroken := isBroken_start hlate [] Shutdown.new.subscribe.1 ⟨0⟩
  have hmillisecond := Run.refl.step (.pass hbroken.quiet)
  have hsignalled := hmillisecond.step (.trigger Nat.one_pos)
  have hbroken' := hbroken.run hsignalled
  have hlater := hsignalled.step (.pass hbroken'.quiet)
  exact ⟨_, hlater, rfl, rfl, fun s' hr => ((hbroken.run hlater).run hr).returned⟩

end Reporting

end EndpointClient
