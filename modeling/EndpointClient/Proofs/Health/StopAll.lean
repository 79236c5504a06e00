import EndpointClient.Proofs.Health.Shutdown

/-!
# EndpointClient.Proofs.Health.StopAll

Several monitors are stopped at once, and the longest wait counts.

* `Stopping` are the monitors on their way out at a time. They are told to stop in one go, and nobody
  else has them meanwhile. `Stopping.Step` is a turn of any of them, or a millisecond that passes
  since none has one. `step_of_advanceFirst`: to carry the shutdowns on is such a step.
* `Stopping.OnCourse` holds in every run: each shutdown is at a stage of its own, and no more time has
  passed than the longest of them waits. `Stopping.rank` falls with every step.
* `stop_takes_longest_wait`: so every run ends, when the longest wait does, and leaves each monitor
  stopped, with the result of its probe if that ended in time.
-/

namespace EndpointClient

/-- How many turns are left of several shutdowns at most. -/
def Leaving.turnsLeftOf : List Leaving → Nat
  | [] => 0
  | l :: ls => l.turnsLeft + turnsLeftOf ls

theorem Leaving.turnsLeftOf_set_lt {ls : List Leaving} {i : Nat} {l l' : Leaving}
    (h : ls[i]? = some l) (hlt : l'.turnsLeft < l.turnsLeft) :
    turnsLeftOf (ls.set i l') < turnsLeftOf ls := by
  induction ls generalizing i with
  | nil => cases h
  | cons k ls ih =>
    cases i with
    | zero =>
      cases h
      exact Nat.add_lt_add_right hlt _
    | succ i => exact Nat.add_lt_add_left (ih h) _

/-- Monitors that are shut down next to one another, at a time. -/
structure Stopping where
  now : Nat
  leaving : List Leaving

namespace Stopping

def start (grace now : Nat) (xs : List Monitored) : Stopping := ⟨now, xs.map (·.leave grace now)⟩

def isOver (s : Stopping) : Bool := s.leaving.all (·.shutdown.isOver)

/-- The longest of the waits that begin at a time. -/
def longestWait (grace start : Nat) (xs : List Monitored) : Nat :=
  (xs.map (·.wait grace start)).max?.getD 0

/-- Any of the monitors takes a turn, or time passes since none can. -/
inductive Step (s : Stopping) : Stopping → Prop where
  | turn {i : Nat} {l l' : Leaving} (ho : s.isOver = false) (hl : s.leaving[i]? = some l)
      (ht : l.Turn s.now l') : Step s { s with leaving := s.leaving.set i l' }
  | tick (ho : s.isOver = false) (hq : ∀ l ∈ s.leaving, l.Quiet s.now) :
      Step s { s with now := s.now + 1 }

/-- A run with the number of its steps. -/
inductive Run (s : Stopping) : Nat → Stopping → Prop where
  | refl : Run s 0 s
  | step {n : Nat} {s' s'' : Stopping} (h : Run s n s') (hs : s'.Step s'') : Run s (n + 1) s''

variable {grace start n : Nat} {xs : List Monitored} {s s' : Stopping}

/-- To carry several shutdowns on is a turn of one of them. -/
theorem turn_of_advanceFirst {now : Nat} {ls : List Leaving} {ss : List MonitorShutdown}
    {ms : List Monitor} {j : Journal}
    (h : MonitorShutdown.advanceFirst now (ls.map (·.shutdown)) (ls.map (·.monitor)) =
      some (ss, ms, j)) :
    ∃ (i : Nat) (l l' : Leaving), ls[i]? = some l ∧ l.Turn now l' ∧
      (ls.set i l').map (·.shutdown) = ss ∧ (ls.set i l').map (·.monitor) = ms := by
  induction ls generalizing ss ms with
  | nil => cases h
  | cons l ls ih =>
    simp only [List.map_cons, MonitorShutdown.advanceFirst] at h
    split at h
    · rename_i hs
      cases h
      exact ⟨0, l, _, rfl, .shutdown hs, rfl, rfl⟩
    · obtain ⟨⟨ss', ms', j'⟩, hrest, heq⟩ := Option.map_eq_some_iff.1 h
      cases heq
      obtain ⟨i, k, k', hk, ht, hss, hms⟩ := ih hrest
      exact ⟨i + 1, k, k', hk, ht, congrArg (l.shutdown :: ·) hss, congrArg (l.monitor :: ·) hms⟩

theorem step_of_advanceFirst {ss : List MonitorShutdown} {ms : List Monitor} {j : Journal}
    (ho : s.isOver = false)
    (h : MonitorShutdown.advanceFirst s.now (s.leaving.map (·.shutdown))
      (s.leaving.map (·.monitor)) = some (ss, ms, j)) :
    ∃ s', s.Step s' ∧ s'.now = s.now ∧ s'.leaving.map (·.shutdown) = ss ∧
      s'.leaving.map (·.monitor) = ms := by
  obtain ⟨i, l, l', hl, ht, hss, hms⟩ := turn_of_advanceFirst h
  exact ⟨_, .turn ho hl ht, rfl, hss, hms⟩

/-- All shutdowns are on their way, and none is behind its time. -/
structure OnCourse (grace start : Nat) (xs : List Monitored) (s : Stopping) : Prop where
  origins : s.leaving.map (·.origin) = xs
  stages : ∀ l ∈ s.leaving, l.Stage grace start s.now l.origin
  begun : start ≤ s.now
  inTime : s.now ≤ start + longestWait grace start xs

/-- What is left to be done, turns and time. -/
def rank (grace start : Nat) (xs : List Monitored) (s : Stopping) : Nat :=
  Leaving.turnsLeftOf s.leaving + (start + longestWait grace start xs - s.now)

theorem wait_le_longest {x : Monitored} (hx : x ∈ xs) (grace start : Nat) :
    x.wait grace start ≤ longestWait grace start xs :=
  List.le_max?_getD_of_mem (List.mem_map_of_mem hx)

theorem longest_le {bound : Nat} (h : ∀ x ∈ xs, x.wait grace start ≤ bound) :
    longestWait grace start xs ≤ bound := by
  unfold longestWait
  cases hmax : (xs.map (·.wait grace start)).max? with
  | none => exact Nat.zero_le _
  | some w =>
    obtain ⟨x, hx, rfl⟩ := List.mem_map.1 (List.max?_mem hmax)
    exact h x hx

theorem onCourse_start (hg : 0 < grace)
    (hheld : ∀ x ∈ xs, x.monitor.holdsSchedule = false → x.monitor.scheduleIsOver = true)
    (start : Nat) : OnCourse grace start xs (.start grace start xs) where
  origins := by
    have hsame : ((·.origin) ∘ fun x : Monitored => x.leave grace start) = id := by
      funext x
      simp [Leaving.leave_eq]
    simp [Stopping.start, hsame]
  stages l hl := by
    obtain ⟨x, hx, rfl⟩ := List.mem_map.1 hl
    have horigin : (x.leave grace start).origin = x := by rw [Leaving.leave_eq]
    rw [horigin]
    exact Leaving.stage_leave hg (hheld x hx) start
  begun := Nat.le_refl _
  inTime := Nat.le_add_right _ _

/-- No step throws a shutdown off its course, and each leaves less to be done. -/
theorem OnCourse.step (hg : 0 < grace) (horderly : ∀ x ∈ xs, x.monitor.Orderly)
    (hapart : ∀ x ∈ xs, ∀ f, x.fate = some f → x.monitor.scheduled? ≠ none →
      f.time ≠ start + grace)
    (h : OnCourse grace start xs s) (hs : s.Step s') :
    OnCourse grace start xs s' ∧ rank grace start xs s' < rank grace start xs s := by
  have hmem {l : Leaving} (hl : l ∈ s.leaving) : l.origin ∈ xs :=
    h.origins ▸ List.mem_map_of_mem hl
  cases hs with
  | @turn i l l' ho hl ht =>
    have hin := List.mem_of_getElem? hl
    obtain ⟨hstage, hfewer⟩ := (h.stages l hin).turn hg (horderly _ (hmem hin))
      (hapart _ (hmem hin)) ht
    have hsame : l'.origin = l.origin := hstage.origin_eq
    refine ⟨⟨?_, fun k hk => ?_, h.begun, h.inTime⟩,
      Nat.add_lt_add_right (Leaving.turnsLeftOf_set_lt hl hfewer) _⟩
    · obtain ⟨hi, rfl⟩ := List.getElem?_eq_some_iff.1 hl
      rw [List.map_set, hsame, ← List.map_set, List.set_getElem_self, h.origins]
    · rcases List.mem_or_eq_of_mem_set hk with hk | rfl
      · exact h.stages k hk
      · rwa [hsame]
  | tick ho hq =>
    have htick (l : Leaving) (hl : l ∈ s.leaving) := (h.stages l hl).tick (hq l hl)
    -- one of the shutdowns is not over, so it waits for its probe
    have hlt : s.now < start + longestWait grace start xs := by
      rw [isOver, List.all_eq_false] at ho
      obtain ⟨l, hl, hopen⟩ := ho
      have hwait := (htick l hl).2 (by simpa using hopen)
      have hle := wait_le_longest (hmem hl) grace start
      omega
    refine ⟨⟨h.origins, fun l hl => (htick l hl).1, Nat.le_succ_of_le h.begun, hlt⟩,
      Nat.add_lt_add_left ?_ _⟩
    exact Nat.sub_lt_sub_left hlt (Nat.lt_succ_self _)

theorem OnCourse.run (hg : 0 < grace) (horderly : ∀ x ∈ xs, x.monitor.Orderly)
    (hapart : ∀ x ∈ xs, ∀ f, x.fate = some f → x.monitor.scheduled? ≠ none →
      f.time ≠ start + grace)
    (h : OnCourse grace start xs s) (hr : s.Run n s') :
    OnCourse grace start xs s' ∧ n + rank grace start xs s' ≤ rank grace start xs s := by
  induction hr with
  | refl => exact ⟨h, Nat.le_of_eq (Nat.zero_add _)⟩
  | step hr hs ih =>
    obtain ⟨hcourse, hle⟩ := ih
    obtain ⟨hcourse', hlt⟩ := hcourse.step hg horderly hapart hs
    exact ⟨hcourse', by omega⟩

theorem exists_step (ho : s.isOver = false) : ∃ s', s.Step s' := by
  by_cases hq : ∀ l ∈ s.leaving, l.Quiet s.now
  · exact ⟨_, .tick ho hq⟩
  · simp only [Leaving.Quiet, Classical.not_forall, Classical.not_not] at hq
    obtain ⟨l, hl, l', ht⟩ := hq
    obtain ⟨i, hi⟩ := List.mem_iff_getElem?.1 hl
    exact ⟨_, .turn ho hi ht⟩

theorem OnCourse.now_eq (h : OnCourse grace start xs s) (ho : s.isOver = true) :
    s.now = start + longestWait grace start xs := by
  refine Nat.le_antisymm h.inTime ?_
  have hle : longestWait grace start xs ≤ s.now - start := by
    refine longest_le fun x hx => ?_
    rw [← h.origins] at hx
    obtain ⟨l, hl, rfl⟩ := List.mem_map.1 hx
    have hreached := ((h.stages l hl).settled_of_over (List.all_eq_true.1 ho l hl)).1
    omega
  have hbegun := h.begun
  omega

/-- **To stop all monitors takes the longest of their waits.** Let monitors be stopped at once, each
in whatever state, but none with a shutdown that somebody began and left. Each waits for its scheduled
probe in flight, if it has one, at most 5000 milliseconds; let none end at that very moment. Then,
however the turns of the monitors fall, all are shut down after finitely many steps, and that is as
long after the beginning as the longest of them has to wait.

A probe that ends before its limit has its result stored and logged, unless the engine has broken
down; one that needs longer leaves the state as it was, and is logged once as aborted. After that no
monitor is scheduled, none begins a probe unless it is asked to, and the probe that was in flight
never completes any more. -/
theorem stop_takes_longest_wait (now : Nat) (xs : List Monitored)
    (hreached : ∀ x ∈ xs, ∃ t es, x.monitor = ((Monitor.new t).run es).1)
    (hheld : ∀ x ∈ xs, x.monitor.holdsSchedule = false → x.monitor.scheduleIsOver = true)
    (hapart : ∀ x ∈ xs, ∀ f, x.fate = some f → x.monitor.scheduled? ≠ none →
      f.time ≠ now + 5000) :
    let first := Stopping.start Monitor.defaultGrace now xs
    (∃ bound, ∀ n s, first.Run n s → n ≤ bound) ∧
    ∀ n s, first.Run n s →
      (s.isOver = false → ∃ s', s.Step s') ∧
      (s.isOver = true →
        s.now = now + longestWait 5000 now xs ∧
        s.leaving.map (·.origin) = xs ∧
        ∀ l ∈ s.leaving,
          let result? := l.origin.result? (now + 5000)
          l.monitor.state = (result?.map ProbeResult.state).getD l.origin.monitor.state ∧
          l.journal.results = result?.toList ∧
          l.journal.aborted = (if l.origin.isLate (now + 5000) then
            [(l.origin.monitor.target, .ofMillis 5000)] else []) ∧
          ∀ es,
            let m := (l.monitor.run es).1
            m.isScheduled = false ∧ m.scheduled? = none ∧
            (∀ later ev, (m.step later ev).1.begun ≠ m.begun → ev = .read ∨ ev = .check) ∧
            ∀ k, l.origin.monitor.scheduled? = some k →
              k ∉ (l.monitor.completed es).map (·.1)) := by
  intro first
  have hg : 0 < Monitor.defaultGrace := by decide
  have horderly : ∀ x ∈ xs, x.monitor.Orderly := by
    intro x hx
    obtain ⟨t, es, hm⟩ := hreached x hx
    exact hm ▸ (Monitor.orderly_new t).run es
  have hfirst : OnCourse Monitor.defaultGrace now xs first := onCourse_start hg hheld now
  refine ⟨⟨rank Monitor.defaultGrace now xs first, fun n s hr => ?_⟩, fun n s hr => ?_⟩
  · exact Nat.le_of_add_right_le (hfirst.run hg horderly hapart hr).2
  · have hcourse := (hfirst.run hg horderly hapart hr).1
    refine ⟨exists_step, fun ho => ⟨hcourse.now_eq ho, hcourse.origins, fun l hl => ?_⟩⟩
    have hsettled := ((hcourse.stages l hl).settled_of_over (List.all_eq_true.1 ho l hl)).2
    exact ⟨hsettled.state, hsettled.results, hsettled.aborted, hsettled.for_good⟩

/-- A monitor without a schedule, one whose probe fails after three seconds, and one whose probe
hangs. -/
theorem stop_takes_longest_wait_hanging :
    let t : ProbeTarget := ⟨"a", .v4 10 0 0 5, ⟨none, [], ['/'], none⟩, none⟩
    let made : List (Nat × MonitorEvent) := [(0, .check), (10, .answered 0 (.ok .ok))]
    let probing : List (Nat × MonitorEvent) :=
      made ++ [(10, .schedule (.ofAge 0) 0 100), (100, .takeTick), (100, .useTick)]
    let xs : List Monitored := [⟨((Monitor.new t).run made).1, none⟩,
      ⟨((Monitor.new t).run probing).1, some ⟨3120, some (.error .cancelled)⟩⟩,
      ⟨((Monitor.new t).run probing).1, none⟩]
    ∀ n s, (Stopping.start Monitor.defaultGrace 120 xs).Run n s → s.isOver = true →
      s.now = 5120 ∧ s.leaving.map (fun l => (l.monitor.state, l.journal.aborted.length)) =
        [(.healthy, 0), (.unhealthy, 0), (.healthy, 1)] := by
  intro t made probing xs n s hr ho
  have hreached : ∀ x ∈ xs, ∃ t es, x.monitor = ((Monitor.new t).run es).1 := by
    intro x hx
    rcases List.mem_cons.1 hx with rfl | hx
    · exact ⟨t, made, rfl⟩
    rcases List.mem_cons.1 hx with rfl | hx
    · exact ⟨t, probing, rfl⟩
    · cases List.mem_singleton.1 hx
      exact ⟨t, probing, rfl⟩
  have hapart : ∀ x ∈ xs, ∀ f, x.fate = some f → x.monitor.scheduled? ≠ none →
      f.time ≠ 120 + 5000 := by
    intro x hx f hf _
    rcases List.mem_cons.1 hx with rfl | hx
    · cases hf
    rcases List.mem_cons.1 hx with rfl | hx
    · cases hf
      decide
    · cases List.mem_singleton.1 hx
      cases hf
  obtain ⟨hnow, horigins, hleft⟩ :=
    ((stop_takes_longest_wait 120 xs hreached (by decide) hapart).2 n s hr).2 ho
  refine ⟨hnow, ?_⟩
  have hends : s.leaving.map (fun l => (l.monitor.state, l.journal.aborted.length)) =
      (s.leaving.map (·.origin)).map fun x =>
        (((x.result? 5120).map ProbeResult.state).getD x.monitor.state, (x.isLate 5120).toNat) := by
    rw [List.map_map]
    refine List.map_congr_left fun l hl => ?_
    obtain ⟨hstate, -, haborted, -⟩ := hleft l hl
    rw [hstate, haborted]
    show (_, List.length _) = (_, Bool.toNat _)
    cases l.origin.isLate 5120 <;> rfl
  rw [hends, horigins]
  rfl

end Stopping
end EndpointClient
