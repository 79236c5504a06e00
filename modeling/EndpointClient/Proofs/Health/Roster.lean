import EndpointClient.Proofs.Health.Made

/-!
# EndpointClient.Proofs.Health.Roster

The making of monitors, while the schedules of those that are made run.

* `Roster` are the monitors made so far with what is still to be done, and `Roster.step` is all that
  happens to them as events.
* `Roster.Stage c s`: how far things have come with the configuration `c`. `Stage.step`: nothing breaks
  that; `Stage.run`: so it is in every run.
* `Roster.rank` falls with every event that things wait for (`Stage.rank_lt`), and does not rise with
  any other. `Stage.rank_rounds`: so it falls with every round.
* `Stage.startup_of_done`, `Stage.begun_run`: what is done stays so, and monitors that are stopped by
  then begin no probe.
-/

namespace EndpointClient

/-- What happens while monitors are made: the next step is taken, the first probe of the monitor in the
making is answered, or the schedule of a monitor that is made does something. -/
inductive StartupEvent where
  | advance (clock : Clock)
  | answered (r : ProbeResult)
  | schedule (index : Nat) (ev : MonitorEvent)

/-- Events in which neither the next step nor the answer of the engine is passed over. -/
def StartupEvent.Round (es : List (Nat × StartupEvent)) : Prop :=
  (∃ now clock, (now, .advance clock) ∈ es) ∧ ∃ now r, (now, .answered r) ∈ es

/-- The making of monitors with those made so far. -/
structure Roster where
  startup : Startup
  made : List Monitor

namespace Roster

open Startup (pairs)

def start (c : ClientConfig) : Roster := ⟨.start c, []⟩

/-- Nothing of what a caller may do happens to a monitor, for nobody has it yet. -/
def step (s : Roster) (now : Nat) : StartupEvent → Roster
  | .advance clock =>
    match s.startup.advance clock now s.made with
    | some (startup, made, _) => ⟨startup, made⟩
    | none => s
  | .answered r => { s with startup := (s.startup.endProbe now r).1 }
  | .schedule i ev =>
    match s.made[i]? with
    | some m => if ev.isOfSchedule then { s with made := s.made.set i (m.step now ev).1 } else s
    | none => s

def run (s : Roster) : List (Nat × StartupEvent) → Roster
  | [] => s
  | (now, ev) :: es => (s.step now ev).run es

section

variable {now : Nat} {p : EndpointConfig × IpAddress} {todo : List (EndpointConfig × IpAddress)}
  {e : EndpointConfig} {d : MonitorDraft} {err : Option InvalidEndpoint} {ms : List Monitor}
  {clock : Clock}

theorem step_advance_none (clock : Clock) (now : Nat) (err : Option InvalidEndpoint)
    (ms : List Monitor) : step ⟨⟨[], none, err⟩, ms⟩ now (.advance clock) = ⟨⟨[], none, err⟩, ms⟩ := rfl

theorem step_advance_ok {plan : MonitorPlan}
    (h : MonitorKind.configured.prepare p.1 p.2 = .ok plan) :
    step ⟨⟨p :: todo, none, err⟩, ms⟩ now (.advance clock) =
      ⟨⟨todo, some (p.1, .start plan now), err⟩, ms⟩ := by
  simp [step, Startup.advance, h]

theorem step_advance_error {fault : InvalidEndpoint}
    (h : MonitorKind.configured.prepare p.1 p.2 = .error fault) :
    step ⟨⟨p :: todo, none, err⟩, ms⟩ now (.advance clock) =
      ⟨⟨[], none, some fault⟩, ms.map Monitor.stop⟩ := by
  simp [step, Startup.advance, h]

theorem step_advance_waiting (h : d.monitor.inFlight ≠ []) :
    step ⟨⟨todo, some (e, d), err⟩, ms⟩ now (.advance clock) =
      ⟨⟨todo, some (e, d), err⟩, ms⟩ := by
  simp [step, Startup.advance, h]

theorem step_advance_made (h : d.monitor.inFlight = []) :
    step ⟨⟨todo, some (e, d), err⟩, ms⟩ now (.advance clock) =
      ⟨⟨todo, none, err⟩, ms ++ [(d.complete clock).1]⟩ := by
  simp [step, Startup.advance, h]

theorem step_answered (r : ProbeResult) :
    step ⟨⟨todo, some (e, d), err⟩, ms⟩ now (.answered r) =
      ⟨⟨todo, some (e, { d with monitor := (d.monitor.endProbe 0 now r).1 }), err⟩, ms⟩ := rfl

theorem startup_schedule (s : Roster) (now i : Nat) (ev : MonitorEvent) :
    (s.step now (.schedule i ev)).startup = s.startup := by
  simp only [step]
  split
  · split <;> rfl
  · rfl

end

/-- The targets that have been probed, in the order of their first probes. -/
def probed (s : Roster) : List ProbeTarget :=
  s.made.map (·.target) ++ s.startup.current.toList.map (·.2.monitor.target)

/-- How far things have come: between two monitors, with one in the making, or at an address that
cannot be probed. The monitors made so far are those for the first addresses. -/
inductive Stage (c : ClientConfig) : Roster → Prop where
  | between {ms : List Monitor} (hm : MadeAll ((pairs c).take ms.length) ms)
      (hr : ∀ m ∈ ms, m.stopped = false) : Stage c ⟨⟨(pairs c).drop ms.length, none, none⟩, ms⟩
  | making {ms : List Monitor} {p : EndpointConfig × IpAddress} {d : MonitorDraft}
      (hm : MadeAll ((pairs c).take ms.length) ms) (hr : ∀ m ∈ ms, m.stopped = false)
      (hp : (pairs c)[ms.length]? = some p) (hd : Drafted p d) :
      Stage c ⟨⟨(pairs c).drop (ms.length + 1), some (p.1, d), none⟩, ms⟩
  | failed {ms : List Monitor} {p : EndpointConfig × IpAddress} {err : InvalidEndpoint}
      (hm : MadeAll ((pairs c).take ms.length) ms) (hr : ∀ m ∈ ms, m.stopped = true)
      (hp : (pairs c)[ms.length]? = some p)
      (he : ProbeTarget.ofConfig p.1 p.2 = .error err) :
      Stage c ⟨⟨[], none, some err⟩, ms⟩

variable {c : ClientConfig} {s : Roster} {now : Nat} {ev : StartupEvent}

theorem Stage.start (c : ClientConfig) : Stage c (start c) := by
  have hnone : MadeAll ((pairs c).take ([] : List Monitor).length) [] := ⟨by simp, by simp⟩
  exact .between hnone (by simp)

theorem Stage.advance (h : Stage c s) (clock : Clock) (now : Nat) :
    Stage c (s.step now (.advance clock)) := by
  cases h with
  | @between ms hm hr =>
    -- the next address is the one at the place of the next monitor
    cases htodo : (pairs c).drop ms.length with
    | nil =>
      rw [step_advance_none, ← htodo]
      exact .between hm hr
    | cons p rest =>
      have hp : (pairs c)[ms.length]? = some p := by rw [← List.head?_drop, htodo]; rfl
      have hrest : rest = (pairs c).drop (ms.length + 1) := by rw [← List.tail_drop, htodo]; rfl
      cases hplan : MonitorKind.configured.prepare p.1 p.2 with
      | ok plan =>
        rw [step_advance_ok hplan, hrest]
        exact .making hm hr hp (.start hplan now)
      | error err =>
        have hlen : (ms.map Monitor.stop).length = ms.length := List.length_map _
        have hstopped : ∀ m ∈ ms.map Monitor.stop, m.stopped = true := by
          intro m hmem
          obtain ⟨m, -, rfl⟩ := List.mem_map.1 hmem
          rfl
        rw [step_advance_error hplan]
        exact .failed (hlen.symm ▸ hm.stop) hstopped (hlen.symm ▸ hp)
          (MonitorKind.fault_of_prepare hplan)
  | @making ms p d hm hr hp hd =>
    by_cases hflight : d.monitor.inFlight = []
    · rw [step_advance_made hflight]
      obtain ⟨hmade, hrunning⟩ := hd.made hflight clock
      have hlen : (ms ++ [(d.complete clock).1]).length = ms.length + 1 := List.length_append
      have hall : MadeAll ((pairs c).take (ms ++ [(d.complete clock).1]).length)
          (ms ++ [(d.complete clock).1]) := by
        rw [hlen, List.take_add_one, hp]
        exact hm.append hmade
      have hall' : ∀ m ∈ ms ++ [(d.complete clock).1], m.stopped = false := by
        intro m hmem
        rcases List.mem_append.1 hmem with hmem | hmem
        · exact hr m hmem
        · cases List.mem_singleton.1 hmem
          exact hrunning
      rw [← hlen]
      exact .between hall hall'
    · rw [step_advance_waiting hflight]
      exact .making hm hr hp hd
  | failed hm hr hp he => exact .failed hm hr hp he

theorem Stage.schedule (h : Stage c s) (now i : Nat) (ev : MonitorEvent) :
    Stage c (s.step now (.schedule i ev)) := by
  simp only [Roster.step]
  split
  · rename_i m hi
    split
    · rename_i hev
      have hlen (ms : List Monitor) : (ms.set i (m.step now ev).1).length = ms.length :=
        List.length_set
      have hset {ps : List (EndpointConfig × IpAddress)} {ms : List Monitor} (hm : MadeAll ps ms)
          (hi : ms[i]? = some m) : MadeAll ps (ms.set i (m.step now ev).1) :=
        hm.set hi fun p hp => hp.step now (.inl hev)
      have hstopped {b : Bool} {ms : List Monitor} (hr : ∀ k ∈ ms, k.stopped = b)
          (hi : ms[i]? = some m) : ∀ k ∈ ms.set i (m.step now ev).1, k.stopped = b := by
        intro k hk
        rcases List.mem_or_eq_of_mem_set hk with hk | rfl
        · exact hr k hk
        · rw [(Monitor.step_of_schedule hev m now).2.1]
          exact hr m (List.mem_of_getElem? hi)
      cases h with
      | @between ms hm hr =>
        have hnext := Stage.between ((hlen ms).symm ▸ hset hm hi) (hstopped hr hi)
        rwa [hlen] at hnext
      | @making ms p d hm hr hp hd =>
        have hnext := Stage.making ((hlen ms).symm ▸ hset hm hi) (hstopped hr hi)
          ((hlen ms).symm ▸ hp) hd
        rwa [hlen] at hnext
      | @failed ms p err hm hr hp he =>
        exact .failed ((hlen ms).symm ▸ hset hm hi) (hstopped hr hi) ((hlen ms).symm ▸ hp) he
    · exact h
  · exact h

/-- Whatever happens, the monitors made are those for the first addresses. -/
theorem Stage.step (h : Stage c s) (now : Nat) (ev : StartupEvent) : Stage c (s.step now ev) := by
  cases ev with
  | advance clock => exact h.advance clock now
  | schedule i ev => exact h.schedule now i ev
  | answered r =>
    cases h with
    | between hm hr => exact .between hm hr
    | making hm hr hp hd => exact .making hm hr hp (hd.answer now r).1
    | failed hm hr hp he => exact .failed hm hr hp he

theorem Stage.run (h : Stage c s) (es : List (Nat × StartupEvent)) : Stage c (s.run es) := by
  induction es generalizing s with
  | nil => exact h
  | cons u es ih => exact ih (h.step u.1 u.2)

/-! ## The end -/

/-- What is left to be done: three turns for an address, and less for the monitor in the making. -/
def rank (s : Roster) : Nat :=
  3 * s.startup.todo.length +
    s.startup.current.elim 0 fun x => if x.2.monitor.inFlight.isEmpty then 1 else 2

def isWaiting (s : Roster) : Bool := s.startup.current.any fun x => !x.2.monitor.inFlight.isEmpty

/-- Whether an event is what things wait for: an answer, or the next step. -/
def IsTurn (s : Roster) : StartupEvent → Prop
  | .advance _ => s.isWaiting = false
  | .answered _ => s.isWaiting = true
  | .schedule _ _ => False

/-- What things do not wait for changes nothing but the monitors that are made. -/
theorem Stage.startup_eq (h : Stage c s) (hev : ¬ s.IsTurn ev) (now : Nat) :
    (s.step now ev).startup = s.startup := by
  cases ev with
  | schedule i ev => exact startup_schedule s now i ev
  | advance clock =>
    cases h with
    | between | failed => exact absurd rfl hev
    | @making ms p d hm hr hp hd =>
      have hflight : d.monitor.inFlight ≠ [] := by simpa [IsTurn, isWaiting] using hev
      rw [step_advance_waiting hflight]
  | answered r =>
    cases h with
    | between | failed => rfl
    | @making ms p d hm hr hp hd =>
      have hflight : d.monitor.inFlight = [] := by simpa [IsTurn, isWaiting] using hev
      rw [Roster.step_answered, hd.answer_of_probed hflight]

theorem Stage.rank_lt (h : Stage c s) (hdone : s.startup.isDone = false) (hev : s.IsTurn ev)
    (now : Nat) : (s.step now ev).rank < s.rank := by
  cases ev with
  | schedule => exact hev.elim
  | advance clock =>
    cases h with
    | @between ms hm hr =>
      cases htodo : (pairs c).drop ms.length with
      | nil =>
        rw [htodo] at hdone
        cases hdone
      | cons p rest =>
        cases hplan : MonitorKind.configured.prepare p.1 p.2 with
        | ok plan =>
          rw [step_advance_ok hplan]
          show 3 * rest.length + 2 < 3 * (rest.length + 1) + 0
          omega
        | error err =>
          rw [step_advance_error hplan]
          show 0 < 3 * (rest.length + 1) + 0
          omega
    | @making ms p d hm hr hp hd =>
      have hflight : d.monitor.inFlight = [] := by simpa [IsTurn, isWaiting] using hev
      rw [step_advance_made hflight]
      simp [rank, hflight]
    | failed => cases hdone
  | answered r =>
    cases h with
    | between | failed => cases hev
    | @making ms p d hm hr hp hd =>
      have hflight : d.monitor.inFlight ≠ [] := by simpa [IsTurn, isWaiting] using hev
      rw [Roster.step_answered]
      simp [rank, (hd.answer now r).2, hflight]

theorem rank_eq_zero_iff : s.rank = 0 ↔ s.startup.isDone = true := by
  obtain ⟨⟨todo, current, failed⟩, made⟩ := s
  cases current with
  | none =>
    simp only [rank, Startup.isDone, Option.elim_none, Option.isNone_none, Bool.and_true,
      List.isEmpty_iff, ← List.length_eq_zero_iff]
    omega
  | some x =>
    simp only [rank, Startup.isDone, Option.elim_some, Option.isNone_some, Bool.and_false]
    split <;> simp

theorem rank_eq {s s' : Roster} (h : s'.startup = s.startup) : s'.rank = s.rank := by
  rw [rank, rank, h]

theorem isTurn_iff {s s' : Roster} (h : s'.startup = s.startup) (ev : StartupEvent) :
    s'.IsTurn ev ↔ s.IsTurn ev := by
  have hsame : s'.isWaiting = s.isWaiting := by rw [isWaiting, isWaiting, h]
  cases ev with
  | advance | answered => rw [IsTurn, IsTurn, hsame]
  | schedule => exact Iff.rfl

theorem Stage.advance_of_done (h : Stage c s) (hdone : s.startup.isDone = true) (clock : Clock)
    (now : Nat) : s.step now (.advance clock) = s := by
  cases h with
  | @between ms hm hr =>
    have htodo : (pairs c).drop ms.length = [] := by simpa [Startup.isDone] using hdone
    rw [htodo, step_advance_none]
  | failed => rfl
  | making => simp [Startup.isDone] at hdone

theorem Stage.startup_of_done (h : Stage c s) (hdone : s.startup.isDone = true) (now : Nat)
    (ev : StartupEvent) : (s.step now ev).startup = s.startup := by
  cases ev with
  | schedule i ev => exact startup_schedule s now i ev
  | advance clock => rw [h.advance_of_done hdone clock]
  | answered r =>
    cases h with
    | between | failed => rfl
    | making => simp [Startup.isDone] at hdone

theorem Stage.rank_le (h : Stage c s) (now : Nat) (ev : StartupEvent) :
    (s.step now ev).rank ≤ s.rank := by
  cases hdone : s.startup.isDone with
  | true => exact Nat.le_of_eq (rank_eq (h.startup_of_done hdone now ev))
  | false =>
    by_cases hev : s.IsTurn ev
    · exact Nat.le_of_lt (h.rank_lt hdone hev now)
    · exact Nat.le_of_eq (rank_eq (h.startup_eq hev now))

theorem Stage.run_rank_le (h : Stage c s) (es : List (Nat × StartupEvent)) :
    (s.run es).rank ≤ s.rank := by
  induction es generalizing s with
  | nil => exact Nat.le_refl _
  | cons u es ih => exact Nat.le_trans (ih (h.step u.1 u.2)) (h.rank_le u.1 u.2)

theorem Stage.run_rank_lt (h : Stage c s) (hdone : s.startup.isDone = false)
    {es : List (Nat × StartupEvent)} (hes : ∃ u ∈ es, s.IsTurn u.2) :
    (s.run es).rank < s.rank := by
  induction es generalizing s with
  | nil => simp at hes
  | cons u es ih =>
    have hnext := h.step u.1 u.2
    by_cases hev : s.IsTurn u.2
    · exact Nat.lt_of_le_of_lt (hnext.run_rank_le es) (h.rank_lt hdone hev u.1)
    · -- it is still the turn of the same event, for nothing has changed that things wait for
      have hsame := h.startup_eq hev u.1
      obtain ⟨v, hv, hturn⟩ := hes
      have hlater : v ∈ es := by
        rcases List.mem_cons.1 hv with rfl | hv
        · exact absurd hturn hev
        · exact hv
      rw [← rank_eq hsame]
      exact ih hnext (hsame ▸ hdone) ⟨v, hlater, (isTurn_iff hsame _).2 hturn⟩

/-- In a round it is the turn of something that happens. -/
theorem exists_turn {es : List (Nat × StartupEvent)} (h : StartupEvent.Round es) (s : Roster) :
    ∃ u ∈ es, s.IsTurn u.2 := by
  obtain ⟨⟨now, clock, hadvance⟩, ⟨later, r, hanswered⟩⟩ := h
  cases hw : s.isWaiting with
  | false => exact ⟨_, hadvance, hw⟩
  | true => exact ⟨_, hanswered, hw⟩

theorem run_append (s : Roster) (es es' : List (Nat × StartupEvent)) :
    s.run (es ++ es') = (s.run es).run es' := by
  induction es generalizing s with
  | nil => rfl
  | cons u es ih => exact ih _

theorem Stage.rank_rounds (h : Stage c s) {rounds : List (List (Nat × StartupEvent))}
    (hr : ∀ r ∈ rounds, StartupEvent.Round r) :
    (s.run rounds.flatten).rank ≤ s.rank - rounds.length := by
  induction rounds generalizing s with
  | nil => exact Nat.le_refl _
  | cons r rounds ih =>
    rw [List.flatten_cons, run_append, List.length_cons]
    have hrest := ih (h.run r) fun r' hr' => hr r' (List.mem_cons_of_mem _ hr')
    have hround : (s.run r).rank ≤ s.rank - 1 := by
      cases hdone : s.startup.isDone with
      | true =>
        have hzero := rank_eq_zero_iff.2 hdone
        have hle := h.run_rank_le r
        omega
      | false =>
        have hlt := h.run_rank_lt hdone (exists_turn (hr r List.mem_cons_self) s)
        omega
    omega

/-- After the end no monitor that is stopped begins a probe. -/
theorem Stage.begun_step (h : Stage c s) (hdone : s.startup.isDone = true)
    (hr : ∀ m ∈ s.made, m.stopped = true) (now : Nat) (ev : StartupEvent) :
    (s.step now ev).made.map (·.begun) = s.made.map (·.begun) ∧
      ∀ m ∈ (s.step now ev).made, m.stopped = true := by
  cases ev with
  | answered r => exact ⟨rfl, hr⟩
  | advance clock =>
    rw [h.advance_of_done hdone clock]
    exact ⟨rfl, hr⟩
  | schedule i ev =>
    simp only [Roster.step]
    split
    · rename_i m hi
      obtain ⟨hlt, rfl⟩ := List.getElem?_eq_some_iff.1 hi
      have hm := hr _ (List.getElem_mem hlt)
      split
      · rename_i hev
        constructor
        · rw [List.map_set, Monitor.begun_of_schedule hev hm, ← List.map_set, List.set_getElem_self]
        · intro k hk
          rcases List.mem_or_eq_of_mem_set hk with hk | rfl
          · exact hr k hk
          · rwa [(Monitor.step_of_schedule hev _ now).2.1]
      · exact ⟨rfl, hr⟩
    · exact ⟨rfl, hr⟩

theorem Stage.begun_run (h : Stage c s) (hdone : s.startup.isDone = true)
    (hr : ∀ m ∈ s.made, m.stopped = true) (es : List (Nat × StartupEvent)) :
    (s.run es).startup = s.startup ∧ (s.run es).made.map (·.begun) = s.made.map (·.begun) := by
  induction es generalizing s with
  | nil => exact ⟨rfl, rfl⟩
  | cons u es ih =>
    have hsame := h.startup_of_done hdone u.1 u.2
    obtain ⟨hbegun, hr'⟩ := h.begun_step hdone hr u.1 u.2
    obtain ⟨hstartup, hmade⟩ := ih (h.step u.1 u.2) (hsame ▸ hdone) hr'
    exact ⟨hstartup.trans hsame, hmade.trans hbegun⟩

end Roster
end EndpointClient
