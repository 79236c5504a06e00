import EndpointClient.Health.Query
import EndpointClient.Proofs.Health.LastProbe

/-!
# EndpointClient.Proofs.Health.Query

What callers are told who ask a monitor, next to one another and to its schedule.

* `Audience` is a monitor with all who have asked it. `Audience.Step` is all that can happen: someone
  asks, the probe of one who waits is answered or its caller leaves, or anything else happens to the
  monitor.
* `Asked.Stands` lists how a query can stand. A query that waits has a probe of its own in flight
  (`Asked.Stands.kept`), and no other query waits for that one.
* `Attends`: everyone stands in one of these ways, and no two wait for one probe. No step breaks that
  (`Attends.step`). `events_of_run`: the probes that complete are those of a run of the monitor.
* `answered_by_own_probe`: so a query is answered at once, or by its own probe.
-/

namespace EndpointClient

/-- The event ends a probe or drops it. -/
def MonitorEvent.Removes (n : Nat) : MonitorEvent → Prop
  | .answered k _ => k = n
  | .giveUp k => k = n
  | _ => False

/-- The probes that were begun on the way to a monitor from what it was before. -/
def Monitor.begunSince (m before : Monitor) : List Nat :=
  List.range' before.begun (m.begun - before.begun)

/-- A probe that is not the schedule's stays in flight, and never becomes the schedule's, unless an
event removes it. -/
theorem Monitor.Change.stays_inFlight {m m' : Monitor} {now n : Nat} {ev : MonitorEvent}
    (hc : m.Change now ev m') (ho : m.Orderly) (hn : m.isInFlight n = true)
    (hs : m.scheduled? ≠ some n) (hev : ¬ ev.Removes n) :
    m'.isInFlight n = true ∧ m'.scheduled? ≠ some n := by
  constructor
  · refine hc.inFlight_kept hn hs ?_ ?_
    · rintro rfl
      exact hev rfl
    · rintro r rfl
      exact hev rfl
  · intro hs'
    rcases hc.scheduled? hs' with ⟨hold, -⟩ | ⟨-, -, rfl, -⟩
    · exact hs hold
    · exact absurd (ho.numbered _ hn) (Nat.lt_irrefl _)

/-- A query with the state that the monitor kept when it was asked, the probes that it has begun, and
how far it has come, unless its caller has left. -/
structure Asked where
  query : HealthQuery
  seen : HealthState
  probes : List Nat
  phase : Option QueryPhase

/-- A monitor with all who have asked it, and the probes that have completed, the earliest first. -/
structure Audience where
  monitor : Monitor
  asked : List Asked
  completed : List (Nat × ProbeResult)

namespace Audience

def start (t : ProbeTarget) : Audience := ⟨.new t, [], []⟩

def ask (s : Audience) (now : Nat) (q : HealthQuery) : Audience :=
  let (m, p) := q.ask now s.monitor
  { s with
    monitor := m
    asked := s.asked ++ [⟨q, s.monitor.state, m.begunSince s.monitor, some p⟩] }

/-- The engine answers the probe of a query, and the query goes on. -/
def resume (s : Audience) (now i : Nat) (x : Asked) (n : Nat) (r : ProbeResult) : Audience :=
  let (m, _, a) := x.query.resume now n r s.monitor
  { monitor := m
    asked := s.asked.set i
      { x with probes := x.probes ++ m.begunSince s.monitor, phase := some (.answered a) }
    completed := s.completed ++ (s.monitor.completion? (.answered n r)).toList }

def leave (s : Audience) (i : Nat) (x : Asked) (n : Nat) : Audience :=
  { s with monitor := s.monitor.dropProbe n, asked := s.asked.set i { x with phase := none } }

def event (s : Audience) (now : Nat) (ev : MonitorEvent) : Audience :=
  { s with
    monitor := (s.monitor.step now ev).1
    completed := s.completed ++ (s.monitor.completion? ev).toList }

/-- The query at an index waits for a probe. -/
def Waits (s : Audience) (i n : Nat) (x : Asked) : Prop :=
  s.asked[i]? = some x ∧ x.phase = some (.probing n)

/-- What happens. Nobody but a query ends or drops the probe that it waits for. A query whose probe
breaks down goes with it, as if its caller had left. -/
inductive Step (s : Audience) : Audience → Prop where
  | ask (now : Nat) (q : HealthQuery) : Step s (s.ask now q)
  | resume {i n : Nat} {x : Asked} (hx : s.Waits i n x) (now : Nat) (r : ProbeResult) :
      Step s (s.resume now i x n r)
  | leave {i n : Nat} {x : Asked} (hx : s.Waits i n x) : Step s (s.leave i x n)
  | event (now : Nat) {ev : MonitorEvent} (hev : ∀ i n x, s.Waits i n x → ¬ ev.Removes n) :
      Step s (s.event now ev)

inductive Run (s : Audience) : Audience → Prop where
  | refl : Run s s
  | step {s' s'' : Audience} (h : Run s s') (hs : s'.Step s'') : Run s s''

end Audience

/-! ## How a query stands -/

/-- What a query is told if nothing counts but the result of a probe. -/
def HealthQuery.told (q : HealthQuery) (r : ProbeResult) : HealthAnswer :=
  match q with
  | .isHealthy => .flag r.state.isHealthy
  | .state => .state r.state
  | .check => .state r.state

/-- The query begins a probe if the monitor keeps a state. -/
def HealthQuery.Probes (q : HealthQuery) (kept : HealthState) : Prop :=
  q = .check ∨ q = .isHealthy ∧ kept = .unhealthy

/-- How a query stands, next to a monitor and the probes that have completed. -/
inductive Asked.Stands (m : Monitor) (done : List (Nat × ProbeResult)) : Asked → Prop where
  | told (kept : HealthState) : Stands m done ⟨.state, kept, [], some (.answered (.state kept))⟩
  | trusted : Stands m done ⟨.isHealthy, .healthy, [], some (.answered (.flag true))⟩
  | waits {q : HealthQuery} {kept : HealthState} {n : Nat} (hq : q.Probes kept)
      (hn : m.isInFlight n = true) (hs : m.scheduled? ≠ some n) :
      Stands m done ⟨q, kept, [n], some (.probing n)⟩
  | read {n : Nat} {r : ProbeResult} (hr : (n, r) ∈ done) :
      Stands m done ⟨.isHealthy, .unhealthy, [n], some (.answered (.flag r.state.isHealthy))⟩
  | checked {kept : HealthState} {n : Nat} {r : ProbeResult} (hr : (n, r) ∈ done) :
      Stands m done ⟨.check, kept, [n], some (.answered (.state r.state))⟩
  | left {q : HealthQuery} {kept : HealthState} {n : Nat} (hq : q.Probes kept) :
      Stands m done ⟨q, kept, [n], none⟩

namespace Asked.Stands

variable {m m' : Monitor} {done done' : List (Nat × ProbeResult)} {x : Asked} {n : Nat}

/-- The probe that a query waits for is its only one. -/
theorem of_probing (h : x.Stands m done) (hp : x.phase = some (.probing n)) :
    x.query.Probes x.seen ∧ x.probes = [n] ∧ m.isInFlight n = true ∧ m.scheduled? ≠ some n := by
  cases h with
  | waits hq hn hs =>
    cases hp
    exact ⟨hq, rfl, hn, hs⟩
  | told | trusted | read | checked | left => cases hp

/-- A query stands as it did, as long as nothing removes the probe that it waits for. -/
theorem kept (h : x.Stands m done) (ho : m.Orderly) (hdone : done ⊆ done')
    (hm : m' = m ∨ ∃ now ev, m.Change now ev m' ∧
      ∀ n, x.phase = some (.probing n) → ¬ ev.Removes n) : x.Stands m' done' := by
  cases h with
  | told kept => exact .told kept
  | trusted => exact .trusted
  | read hr => exact .read (hdone hr)
  | checked hr => exact .checked (hdone hr)
  | left hq => exact .left hq
  | @waits q kept k hq hn hs =>
    rcases hm with rfl | ⟨now, ev, hc, hev⟩
    · exact .waits hq hn hs
    · obtain ⟨hn', hs'⟩ := hc.stays_inFlight ho hn hs (hev k rfl)
      exact .waits hq hn' hs'

end Asked.Stands

/-! ## Asking and answering -/

namespace Monitor

variable {m : Monitor}

@[simp]
theorem begunSince_self (m : Monitor) : m.begunSince m = [] := by simp [begunSince]

@[simp]
theorem begunSince_beginProbe (m : Monitor) (now : Nat) :
    (m.beginProbe now).1.begunSince m = [m.begun] := by
  simp [begunSince, beginProbe]

@[simp]
theorem begunSince_endProbe (m : Monitor) (n now : Nat) (r : ProbeResult) :
    (m.endProbe n now r).1.begunSince m = [] := by
  unfold endProbe
  split <;> simp [begunSince, forget]

end Monitor

namespace Audience

variable {s s' : Audience} {now i j n k : Nat} {x y : Asked} {r : ProbeResult}

theorem ask_of_healthy (h : s.monitor.state = .healthy) (now : Nat) :
    s.ask now .isHealthy = { s with
      asked := s.asked ++ [⟨.isHealthy, .healthy, [], some (.answered (.flag true))⟩] } := by
  simp [ask, HealthQuery.ask, h, HealthState.isHealthy]

theorem ask_of_unhealthy (h : s.monitor.state = .unhealthy) (now : Nat) :
    s.ask now .isHealthy = { s with
      monitor := (s.monitor.beginProbe now).1
      asked := s.asked ++
        [⟨.isHealthy, .unhealthy, [s.monitor.begun], some (.probing s.monitor.begun)⟩] } := by
  have hbegun := s.monitor.begunSince_beginProbe now
  simp only [ask, HealthQuery.ask, h, HealthState.isHealthy, Bool.false_eq_true, if_false]
  rw [hbegun]
  rfl

theorem ask_check (s : Audience) (now : Nat) :
    s.ask now .check = { s with
      monitor := (s.monitor.beginProbe now).1
      asked := s.asked ++
        [⟨.check, s.monitor.state, [s.monitor.begun], some (.probing s.monitor.begun)⟩] } := by
  have hbegun := s.monitor.begunSince_beginProbe now
  simp only [ask, HealthQuery.ask]
  rw [hbegun]
  rfl

theorem ask_state (s : Audience) (now : Nat) :
    s.ask now .state = { s with
      asked := s.asked ++
        [⟨.state, s.monitor.state, [], some (.answered (.state s.monitor.state))⟩] } := by
  simp [ask, HealthQuery.ask]

/-- A query that goes on finds the state that its own probe has just stored. -/
theorem resume_of_inFlight (hn : s.monitor.isInFlight n = true) (now i : Nat) (x : Asked)
    (r : ProbeResult) : s.resume now i x n r = {
      monitor := (s.monitor.step now (.answered n r)).1
      asked := s.asked.set i { x with phase := some (.answered (x.query.told r)) }
      completed := s.completed ++ [(n, r)] } := by
  have hcompletes : s.monitor.completion? (.answered n r) = some (n, r) := by
    simp [Monitor.completion?, hn]
  have hstate : (s.monitor.endProbe n now r).1.state = r.state :=
    (Monitor.step_completed hcompletes now).1
  have hbegun := s.monitor.begunSince_endProbe n now r
  simp only [resume, HealthQuery.resume, hcompletes, hbegun, List.append_nil, Option.toList_some]
  cases hq : x.query with
  | isHealthy => simp [HealthQuery.reply, HealthQuery.told, hstate, Monitor.step]
  | state => simp [HealthQuery.reply, HealthQuery.told, hstate, Monitor.step]
  | check => simp [HealthQuery.reply, HealthQuery.told, Monitor.step]

/-- Everyone who has asked stands in one of the ways a query can stand, and no two wait for one
probe. -/
structure Attends (s : Audience) : Prop where
  orderly : s.monitor.Orderly
  stands : ∀ (i : Nat) (x : Asked), s.asked[i]? = some x → x.Stands s.monitor s.completed
  apart : ∀ (i j n : Nat) (x y : Asked), s.Waits i n x → s.Waits j n y → i = j

theorem attends_start (t : ProbeTarget) : (start t).Attends :=
  ⟨Monitor.orderly_new t, fun i x hx => by simp [start] at hx,
    fun i j n x y hx => by simp [start, Waits] at hx⟩

theorem Attends.waits (h : s.Attends) (hx : s.Waits i n x) :
    x.query.Probes x.seen ∧ x.probes = [n] ∧ s.monitor.isInFlight n = true ∧
      s.monitor.scheduled? ≠ some n :=
  (h.stands i x hx.1).of_probing hx.2

theorem Attends.add (h : s.Attends) {m : Monitor}
    (hm : m = s.monitor ∨ ∃ now ev, s.monitor.Change now ev m ∧ ∀ n, ¬ ev.Removes n)
    (hx : x.Stands m s.completed)
    (hnew : ∀ n, x.phase = some (.probing n) → n = s.monitor.begun) :
    Attends { s with monitor := m, asked := s.asked ++ [x] } := by
  have hcases {j : Nat} {y : Asked} (hy : (s.asked ++ [x])[j]? = some y) :
      s.asked[j]? = some y ∨ j = s.asked.length ∧ y = x := by grind
  -- the probes that others wait for have begun before
  have hold {j n : Nat} {y : Asked} (hy : s.Waits j n y) : n ≠ s.monitor.begun :=
    Nat.ne_of_lt (h.orderly.numbered n (h.waits hy).2.2.1)
  refine ⟨?_, fun j y hy => ?_, fun i j n y z hy hz => ?_⟩
  · rcases hm with rfl | ⟨now, ev, hc, -⟩
    · exact h.orderly
    · exact hc.orderly h.orderly
  · rcases hcases hy with hy | ⟨-, rfl⟩
    · refine (h.stands j y hy).kept h.orderly (List.Subset.refl _) (hm.imp_right ?_)
      rintro ⟨now, ev, hc, hev⟩
      exact ⟨now, ev, hc, fun n _ => hev n⟩
    · exact hx
  · rcases hcases hy.1 with hy' | ⟨rfl, rfl⟩
    · rcases hcases hz.1 with hz' | ⟨rfl, rfl⟩
      · exact h.apart i j n y z ⟨hy', hy.2⟩ ⟨hz', hz.2⟩
      · exact absurd (hnew n hz.2) (hold ⟨hy', hy.2⟩)
    · rcases hcases hz.1 with hz' | ⟨rfl, rfl⟩
      · exact absurd (hnew n hy.2) (hold ⟨hz', hz.2⟩)
      · rfl

theorem Attends.finish (h : s.Attends) (hw : s.Waits i n x) {m : Monitor}
    {done : List (Nat × ProbeResult)} (hdone : s.completed ⊆ done) {ev : MonitorEvent}
    (hm : s.monitor.Change now ev m) (hev : ∀ k, ev.Removes k → k = n) (hy : y.Stands m done)
    (hover : ∀ n, y.phase ≠ some (.probing n)) :
    Attends ⟨m, s.asked.set i y, done⟩ := by
  have hcases {j : Nat} {z : Asked} (hz : (s.asked.set i y)[j]? = some z) :
      i ≠ j ∧ s.asked[j]? = some z ∨ j = i ∧ z = y := by grind
  have hwaits {j n : Nat} {z : Asked} (hz : Waits ⟨m, s.asked.set i y, done⟩ j n z) :
      s.Waits j n z := by
    rcases hcases hz.1 with ⟨-, hz'⟩ | ⟨-, rfl⟩
    · exact ⟨hz', hz.2⟩
    · exact absurd hz.2 (hover n)
  refine ⟨hm.orderly h.orderly, fun j z hz => ?_, fun j k n z z' hz hz' => ?_⟩
  · rcases hcases hz with ⟨hne, hz⟩ | ⟨-, rfl⟩
    · refine (h.stands j z hz).kept h.orderly hdone (.inr ⟨now, ev, hm, fun k hp hr => hne ?_⟩)
      rw [hev k hr] at hp
      exact h.apart i j n x z hw ⟨hz, hp⟩
    · exact hy
  · exact h.apart j k n z z' (hwaits hz) (hwaits hz')

theorem Attends.ask (h : s.Attends) (now : Nat) (q : HealthQuery) : (s.ask now q).Attends := by
  have hbegun : (s.monitor.beginProbe now).1.isInFlight s.monitor.begun = true := by
    simp [Monitor.isInFlight_beginProbe]
  have hfree : (s.monitor.beginProbe now).1.scheduled? ≠ some s.monitor.begun := by
    intro hs
    exact absurd (h.orderly.numbered _ (h.orderly.scheduled _ hs)) (Nat.lt_irrefl _)
  cases q with
  | isHealthy =>
    cases hs : s.monitor.state with
    | healthy =>
      rw [ask_of_healthy hs]
      exact h.add (.inl rfl) .trusted nofun
    | unhealthy =>
      have hchange : s.monitor.Change now .read (s.monitor.beginProbe now).1 :=
        .read (by simp [hs, HealthState.isHealthy])
      rw [ask_of_unhealthy hs]
      refine h.add (.inr ⟨now, .read, hchange, fun n => nofun⟩)
        (.waits (.inr ⟨rfl, rfl⟩) hbegun hfree) ?_
      rintro n hn
      cases hn
      rfl
  | state =>
    rw [ask_state]
    exact h.add (.inl rfl) (.told _) nofun
  | check =>
    rw [ask_check]
    refine h.add (.inr ⟨now, .check, .check, fun n => nofun⟩) (.waits (.inl rfl) hbegun hfree) ?_
    rintro n hn
    cases hn
    rfl

theorem Attends.resume (h : s.Attends) (hw : s.Waits i n x) (now : Nat) (r : ProbeResult) :
    (s.resume now i x n r).Attends := by
  obtain ⟨hprobes, hown, hn, -⟩ := h.waits hw
  have hchange : s.monitor.Change now (.answered n r) (s.monitor.step now (.answered n r)).1 := by
    obtain ⟨p, hp⟩ := Monitor.find?_of_isInFlight hn
    rw [Monitor.step, Monitor.endProbe_of_inFlight hp]
    exact .completed r hn
  have hmem : (n, r) ∈ s.completed ++ [(n, r)] := by simp
  rw [resume_of_inFlight hn]
  refine h.finish hw (List.subset_append_left _ _) hchange (fun k hk => hk.symm) ?_ ?_
  · obtain ⟨query, seen, probes, phase⟩ := x
    cases hown
    rcases hprobes with rfl | ⟨rfl, rfl⟩
    · exact .checked hmem
    · exact .read hmem
  · intro k hk
    cases hk

theorem Attends.leave (h : s.Attends) (hw : s.Waits i n x) : (s.leave i x n).Attends := by
  obtain ⟨hprobes, hown, -, hs⟩ := h.waits hw
  have hchange : s.monitor.Change 0 (.giveUp n) (s.monitor.dropProbe n) := .gaveUp hs
  refine h.finish hw (List.Subset.refl _) hchange (fun k hk => hk.symm) ?_ nofun
  obtain ⟨query, seen, probes, phase⟩ := x
  cases hown
  exact .left hprobes

theorem Attends.event (h : s.Attends) {ev : MonitorEvent}
    (hev : ∀ i n x, s.Waits i n x → ¬ ev.Removes n) (now : Nat) : (s.event now ev).Attends := by
  refine ⟨h.orderly.step now ev, fun j y hy => ?_, fun i j n x y hx hy => h.apart i j n x y hx hy⟩
  refine (h.stands j y hy).kept h.orderly (List.subset_append_left _ _) ?_
  rcases s.monitor.step_change now ev with hsame | hc
  · exact .inl hsame
  · exact .inr ⟨now, ev, hc, fun n hp => hev j n y ⟨hy, hp⟩⟩

theorem Attends.step (h : s.Attends) (hs : s.Step s') : s'.Attends := by
  cases hs with
  | ask now q => exact h.ask now q
  | resume hx now r => exact h.resume hx now r
  | leave hx => exact h.leave hx
  | event now hev => exact h.event hev now

theorem Attends.run (h : s.Attends) (hr : s.Run s') : s'.Attends := by
  induction hr with
  | refl => exact h
  | step _ hs ih => exact ih.step hs

/-! ## What everyone is told -/

/-- A step is an event of the monitor, or none. -/
theorem Attends.events_of_step (h : s.Attends) (hs : s.Step s') :
    ∃ es, s'.monitor = (s.monitor.run es).1 ∧
      s'.completed = s.completed ++ s.monitor.completed es := by
  cases hs with
  | ask now q =>
    cases q with
    | isHealthy =>
      cases hs : s.monitor.state with
      | healthy =>
        rw [ask_of_healthy hs]
        exact ⟨[], rfl, (List.append_nil _).symm⟩
      | unhealthy =>
        rw [ask_of_unhealthy hs]
        refine ⟨[(now, .read)], ?_, (List.append_nil _).symm⟩
        simp [Monitor.run, Monitor.step, hs, HealthState.isHealthy]
    | state => exact ⟨[], rfl, (List.append_nil _).symm⟩
    | check => exact ⟨[(now, .check)], rfl, (List.append_nil _).symm⟩
  | @resume i n x hx now r =>
    exact ⟨[(now, .answered n r)], rfl, by simp [Audience.resume, Monitor.completed]⟩
  | @leave i n x hx =>
    obtain ⟨-, -, -, hfree⟩ := h.waits hx
    refine ⟨[(0, .giveUp n)], ?_, (List.append_nil _).symm⟩
    simp [Audience.leave, Monitor.run, Monitor.step, hfree]
  | @event now ev hev => exact ⟨[(now, ev)], rfl, by simp [Audience.event, Monitor.completed]⟩

/-- The monitor and its probes that have completed are those of a run. -/
theorem events_of_run {t : ProbeTarget} (hr : (start t).Run s) :
    ∃ es, s.monitor = ((Monitor.new t).run es).1 ∧
      s.completed = (Monitor.new t).completed es := by
  induction hr with
  | refl => exact ⟨[], rfl, rfl⟩
  | step hr hs ih =>
    obtain ⟨es, hm, hdone⟩ := ih
    obtain ⟨es', hm', hdone'⟩ := ((attends_start t).run hr).events_of_step hs
    refine ⟨es ++ es', ?_, ?_⟩
    · rw [hm', hm, Monitor.run_append]
    · rw [hdone', hdone, hm, Monitor.completed_append]

/-- Who asks whether the monitor is healthy and finds it so has no probe. -/
theorem Attends.trusted (h : s.Attends) (hx : s.asked[i]? = some x) (hq : x.query = .isHealthy)
    (hs : x.seen = .healthy) : x.probes = [] ∧ x.phase = some (.answered (.flag true)) := by
  cases h.stands i x hx with
  | trusted => exact ⟨rfl, rfl⟩
  | waits hp | left hp =>
    rcases hp with rfl | ⟨-, rfl⟩
    · cases hq
    · cases hs
  | read => cases hs
  | told | checked => cases hq

/-- Who asks whether the monitor is healthy and finds it not has a single probe, and is told what
comes of that. -/
theorem Attends.probed (h : s.Attends) (hx : s.asked[i]? = some x) (hq : x.query = .isHealthy)
    (hs : x.seen = .unhealthy) : ∃ n, x.probes = [n] ∧ (x.phase = none ∨
      x.phase = some (.probing n) ∧ s.monitor.isInFlight n = true ∨
      ∃ r, (n, r) ∈ s.completed ∧ x.phase = some (.answered (.flag r.state.isHealthy))) := by
  cases h.stands i x hx with
  | @waits q kept n hp hn => exact ⟨n, rfl, .inr (.inl ⟨rfl, hn⟩)⟩
  | @left q kept n hp => exact ⟨n, rfl, .inl rfl⟩
  | @read n r hr => exact ⟨n, rfl, .inr (.inr ⟨r, hr, rfl⟩)⟩
  | trusted => cases hs
  | told | checked => cases hq

/-- **Who asks whether a monitor is healthy is told what it keeps, or what a probe of their own
finds.** Let any number of callers ask a monitor, read its state and have it probed, leave or stay,
next to its schedule, its stop and its shutdown, in any order. Whoever finds it healthy is told so at
once, and nothing begins. Whoever finds it unhealthy begins a probe, waits for this one, and has no
other. When it completes they are told how it was classified, whatever other probes have stored
before, meanwhile or last. To read the state begins nothing and changes nothing. -/
theorem answered_by_own_probe (t : ProbeTarget) (hr : (start t).Run s) :
    (∃ es, s.monitor = ((Monitor.new t).run es).1 ∧ s.completed = (Monitor.new t).completed es) ∧
    (s.completed.map (·.1)).Nodup ∧
    (∀ now, s.monitor.state = .healthy → s.ask now .isHealthy = { s with
      asked := s.asked ++ [⟨.isHealthy, .healthy, [], some (.answered (.flag true))⟩] }) ∧
    (∀ now, s.monitor.state = .unhealthy → s.ask now .isHealthy = { s with
      monitor := (s.monitor.beginProbe now).1
      asked := s.asked ++
        [⟨.isHealthy, .unhealthy, [s.monitor.begun], some (.probing s.monitor.begun)⟩] }) ∧
    (∀ now, s.ask now .state = { s with
      asked := s.asked ++
        [⟨.state, s.monitor.state, [], some (.answered (.state s.monitor.state))⟩] }) ∧
    (∀ i n x, s.Waits i n x → x.query = .isHealthy → s.monitor.isInFlight n = true ∧
      ∀ now r, s.resume now i x n r = {
        monitor := (s.monitor.step now (.answered n r)).1
        asked := s.asked.set i { x with phase := some (.answered (.flag r.state.isHealthy)) }
        completed := s.completed ++ [(n, r)] }) ∧
    ∀ (i : Nat) (x : Asked), s.asked[i]? = some x → x.query = .isHealthy →
      (x.seen = .healthy → x.probes = [] ∧ x.phase = some (.answered (.flag true))) ∧
      (x.seen = .unhealthy → ∃ n, x.probes = [n] ∧ (x.phase = none ∨
        x.phase = some (.probing n) ∧ s.monitor.isInFlight n = true ∨
        ∃ r, (n, r) ∈ s.completed ∧ x.phase = some (.answered (.flag r.state.isHealthy)))) := by
  have h : s.Attends := (attends_start t).run hr
  obtain ⟨es, hm, hdone⟩ := events_of_run hr
  have honce : (s.completed.map (·.1)).Nodup := by
    rw [hdone]
    exact (Monitor.completed_run (Monitor.orderly_new t) es).1
  refine ⟨⟨es, hm, hdone⟩, honce, ?_, ?_, s.ask_state, ?_, ?_⟩
  · intro now hs
    exact ask_of_healthy hs now
  · intro now hs
    exact ask_of_unhealthy hs now
  · intro i n x hx hq
    obtain ⟨-, -, hn, -⟩ := h.waits hx
    refine ⟨hn, ?_⟩
    intro now r
    rw [resume_of_inFlight hn, hq]
    rfl
  · intro i x hx hq
    exact ⟨h.trusted hx hq, h.probed hx hq⟩

/-- A reader finds the monitor unhealthy and begins a probe. While that is in flight a check finds the
endpoint healthy, and another reader is told so. The first is told what its own probe has found. -/
theorem answered_by_own_probe_overtaken :
    let t : ProbeTarget := ⟨"a", .v4 10 0 0 5, ⟨none, [], ['/'], none⟩, none⟩
    let s := ((start t).ask 0 .isHealthy).ask 1 .check
    let s' := (s.resume 2 1 ⟨.check, .unhealthy, [1], some (.probing 1)⟩ 1 (.ok .ok)).ask 3 .isHealthy
    let s'' := s'.resume 4 0 ⟨.isHealthy, .unhealthy, [0], some (.probing 0)⟩ 0 (.error .cancelled)
    s'.monitor.state = .healthy ∧ s''.completed = [(1, .ok .ok), (0, .error .cancelled)] ∧
      s''.asked[2]?.bind Asked.phase = some (.answered (.flag true)) ∧
      s''.asked[0]?.bind Asked.phase = some (.answered (.flag false)) ∧
      s'.ask 4 .isHealthy = { s' with
        asked := s'.asked ++ [⟨.isHealthy, .healthy, [], some (.answered (.flag true))⟩] } := by
  intro t s s' s''
  have hrun : (start t).Run s :=
    .step (.step .refl (.ask 0 .isHealthy)) (.ask 1 .check)
  have hrun' : (start t).Run s' :=
    .step (.step hrun (.resume ⟨rfl, rfl⟩ 2 (.ok .ok))) (.ask 3 .isHealthy)
  obtain ⟨-, -, htrusted, -, -, hown, -⟩ := answered_by_own_probe t hrun'
  obtain ⟨-, hended⟩ := hown 0 0 ⟨.isHealthy, .unhealthy, [0], some (.probing 0)⟩ ⟨rfl, rfl⟩ rfl
  have hs'' : s'' = _ := hended 4 (.error .cancelled)
  exact ⟨rfl, rfl, rfl, by rw [hs'']; rfl, htrusted 4 rfl⟩

end Audience

end EndpointClient
