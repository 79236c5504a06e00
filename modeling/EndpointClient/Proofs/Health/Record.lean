import EndpointClient.Health.Fleet
import EndpointClient.Proofs.Health.LastProbe
import EndpointClient.Proofs.Net.Address
import EndpointClient.Proofs.Observe.Journal

/-!
# EndpointClient.Proofs.Health.Record

What is logged and measured of the probes of many monitors.

* `Fleet.beginnings` and `Fleet.completed` are the probes that begin in a run and those that are
  completed in it, each with its monitor, its number there and its times.
* `Fleet.Begun`: a probe begins once, and what is in flight has begun. `Fleet.Accounted`: what is
  recorded are the probes that were completed, and the last of each monitor left the state that the
  monitor keeps. `Accounted.step`: no event breaks that, whichever monitor it is for.
* `Fleet.not_completed_of_gone`: a probe that is in flight no more is never completed later.
* `probes_accounted`: metrics and log tell of each completed probe, and of no other.
-/

namespace EndpointClient

theorem HealthState.text_inj {s s' : HealthState} (h : s.text = s'.text) : s = s' := by
  cases s <;> cases s' <;> first | rfl | simp [HealthState.text] at h

/-- A probe that has begun: of which monitor it is, its number there, and when it began. -/
structure StartedProbe where
  monitor : Nat
  number : Nat
  began : Nat

def StartedProbe.key (p : StartedProbe) : Nat × Nat := (p.monitor, p.number)

structure CompletedProbe where
  monitor : Nat
  number : Nat
  target : ProbeTarget
  began : Nat
  ended : Nat
  result : ProbeResult

namespace CompletedProbe

def key (p : CompletedProbe) : Nat × Nat := (p.monitor, p.number)

def isOf (hostname : String) (s : HealthState) (p : CompletedProbe) : Bool :=
  p.target.hostname = hostname ∧ p.result.state = s

def isAt (hostname : String) (address : IpAddress) (p : CompletedProbe) : Bool :=
  p.target.hostname = hostname ∧ p.target.address = address

def micros (p : CompletedProbe) : Nat := (p.ended - p.began) * 1000

def done (p : CompletedProbe) : DoneProbe := ⟨p.target, p.result, .ofMillis (p.ended - p.began)⟩

/-- The event that tells of a probe. -/
def event (p : CompletedProbe) : LogEvent :=
  let probed := [("uri", .text p.target.uri.text), ("address", .text p.target.address.text)]
  let took := ("elapsed_ms", LogValue.count (p.ended - p.began))
  match p.result with
  | .ok s => ⟨.info, "Checked endpoint health", probed ++ [("status", .count s.code), took]⟩
  | .error e =>
    ⟨.warn, "Failed to check endpoint health", probed ++ [("error", .text e.message), took]⟩

theorem log_done (p : CompletedProbe) : (Happening.probed p.done).log = p.event := by
  obtain ⟨_, _, _, _, _, result⟩ := p
  cases result <;>
    simp [Happening.log, Happening.targetFields, done, event, Duration.millis_ofMillis]

theorem sample_done (p : CompletedProbe) : p.done.sample = p.micros := by
  simp only [DoneProbe.sample, done, micros, Duration.ofMillis]
  omega

theorem isOf_done (hostname : String) (s : HealthState) (p : CompletedProbe) :
    p.done.isOf hostname s.text = p.isOf hostname s := by
  have htext : p.result.state.text = s.text ↔ p.result.state = s :=
    ⟨HealthState.text_inj, fun h => h ▸ rfl⟩
  simp only [DoneProbe.isOf, isOf, done, htext]

theorem isAt_done (hostname : String) (address : IpAddress) (p : CompletedProbe) :
    p.done.isAt hostname address.text = p.isAt hostname address := by
  have htext : p.target.address.text = address.text ↔ p.target.address = address :=
    ⟨IpAddress.text_inj, fun h => h ▸ rfl⟩
  simp only [DoneProbe.isAt, isAt, done, htext]

end CompletedProbe

namespace Monitor

variable {m m' : Monitor} {now : Nat} {ev : MonitorEvent} {p : Probe}

/-- At most one probe begins with an event, and it gets the next number. -/
theorem Change.begun_cases (hc : m.Change now ev m') :
    m'.begun = m.begun ∨ m'.begun = m.begun + 1 := by
  cases hc with
  | read | check | began => exact .inr rfl
  | completed | gaveUp | scheduled | overran | ticked | haltedIdle | haltedTicked | brokeDown
  | stopped | dropped | shutDown | abortedProbe | abortedWait => exact .inl rfl

/-- What comes into flight has begun just then. -/
theorem Change.mem_inFlight (hc : m.Change now ev m') (hp : p ∈ m'.inFlight) :
    p ∈ m.inFlight ∨ p = ⟨m.begun, now⟩ ∧ m'.begun = m.begun + 1 := by
  have hbegin (h : p ∈ (m.beginProbe now).1.inFlight) : p ∈ m.inFlight ∨ p = ⟨m.begun, now⟩ := by
    simpa [beginProbe] using h
  have hforget {k : Nat} (h : p ∈ (m.forget k).inFlight) : p ∈ m.inFlight :=
    (List.mem_filter.1 h).1
  cases hc with
  | read | check | began => exact (hbegin hp).imp_right fun h => ⟨h, rfl⟩
  | completed | gaveUp | brokeDown | abortedProbe => exact .inl (hforget hp)
  | scheduled | overran | ticked | haltedIdle | haltedTicked | stopped | dropped | shutDown
  | abortedWait => exact .inl hp

theorem begun_step (m : Monitor) (now : Nat) (ev : MonitorEvent) :
    (m.step now ev).1.begun = m.begun ∨ (m.step now ev).1.begun = m.begun + 1 := by
  rcases m.step_change now ev with hsame | hc
  · rw [hsame]
    exact .inl rfl
  · exact hc.begun_cases

theorem mem_inFlight_step (hp : p ∈ (m.step now ev).1.inFlight) :
    p ∈ m.inFlight ∨ p = ⟨m.begun, now⟩ ∧ (m.step now ev).1.begun = m.begun + 1 := by
  rcases m.step_change now ev with hsame | hc
  · rw [hsame] at hp
    exact .inl hp
  · exact hc.mem_inFlight hp

theorem target_run (m : Monitor) (es : List (Nat × MonitorEvent)) :
    (m.run es).1.target = m.target :=
  run_induction (P := fun m' => m'.target = m.target)
    (fun _ _ _ _ h hc => hc.target_eq.trans h) rfl es

theorem probes_step (h : m.completion? ev = none) (now : Nat) :
    (m.step now ev).2.probes = [] := by
  refine List.filterMap_eq_nil_iff.2 fun e he => ?_
  rcases log_cases (List.mem_reverse.1 he) with ⟨n, r, p, rfl, hn, -⟩ | ⟨d, rfl⟩ | rfl | ⟨d, rfl⟩
  · simp [completion?, hn] at h
  · rfl
  · rfl
  · rfl

end Monitor

namespace Fleet

open MetricValue

variable {w : Fleet} {now i n : Nat} {m m' : Monitor} {ev : MonitorEvent} {e : FleetEvent}
  {q : CompletedProbe} {begun : List StartedProbe} {done : List CompletedProbe}

/-! ## What begins and what is completed -/

def begins? (w : Fleet) (now : Nat) : FleetEvent → Option StartedProbe
  | .add _ => none
  | .happens i ev => do
    let m ← w.monitors[i]?
    if (m.step now ev).1.begun = m.begun then none else some ⟨i, m.begun, now⟩

/-- The probe that is completed in an event. It was in flight till then. -/
def completes? (w : Fleet) (now : Nat) : FleetEvent → Option CompletedProbe
  | .happens i (.answered n r) => do
    let m ← w.monitors[i]?
    let p ← m.inFlight.find? (·.number = n)
    return ⟨i, n, m.target, p.began, now, r⟩
  | _ => none

/-- The probes that begin in a run, the earliest first. -/
def beginnings (w : Fleet) : List (Nat × FleetEvent) → List StartedProbe
  | [] => []
  | (now, e) :: es => (w.begins? now e).toList ++ (w.step now e).beginnings es

/-- The probes that are completed in a run, the earliest first. -/
def completed (w : Fleet) : List (Nat × FleetEvent) → List CompletedProbe
  | [] => []
  | (now, e) :: es => (w.completes? now e).toList ++ (w.step now e).completed es

theorem step_happens (hm : w.monitors[i]? = some m) (now : Nat) (ev : MonitorEvent) :
    w.step now (.happens i ev) =
      { w with monitors := w.monitors.set i (m.step now ev).1,
               journal := (m.step now ev).2 ++ w.journal } := by
  simp [step, hm]

theorem begins?_happens (hm : w.monitors[i]? = some m) (now : Nat) (ev : MonitorEvent) :
    w.begins? now (.happens i ev) =
      if (m.step now ev).1.begun = m.begun then none else some ⟨i, m.begun, now⟩ := by
  simp [begins?, hm]

theorem completes?_eq_some (h : w.completes? now e = some q) :
    ∃ m p, e = .happens q.monitor (.answered q.number q.result) ∧
      w.monitors[q.monitor]? = some m ∧ m.inFlight.find? (·.number = q.number) = some p ∧
      q.target = m.target ∧ q.began = p.began ∧ q.ended = now := by
  unfold completes? at h
  split at h
  · rename_i i n r
    obtain ⟨m, hm, h⟩ := Option.bind_eq_some_iff.1 h
    obtain ⟨p, hp, h⟩ := Option.bind_eq_some_iff.1 h
    cases h
    exact ⟨m, p, rfl, hm, hp, rfl, rfl, rfl⟩
  · cases h

theorem completes?_eq_none (hm : w.monitors[i]? = some m)
    (h : w.completes? now (.happens i ev) = none) : m.completion? ev = none := by
  cases hc : m.completion? ev with
  | none => rfl
  | some c =>
    obtain ⟨rfl, hn⟩ := Monitor.completion?_eq_some hc
    obtain ⟨p, hp⟩ := Monitor.find?_of_isInFlight hn
    simp [completes?, hm, hp] at h

theorem monitor_step (hm : w.monitors[i]? = some m) (now : Nat) (e : FleetEvent) :
    ∃ es, (w.step now e).monitors[i]? = some (m.run es).1 := by
  obtain ⟨hi, -⟩ := List.getElem?_eq_some_iff.1 hm
  cases e with
  | add t => exact ⟨[], by rw [step, List.getElem?_append_left hi, hm]; rfl⟩
  | happens k ev =>
    cases hk : w.monitors[k]? with
    | none =>
      refine ⟨[], ?_⟩
      rw [step, hk]
      exact hm
    | some m' =>
      rw [step_happens hk]
      by_cases h : k = i
      · subst h
        cases hm.symm.trans hk
        exact ⟨[(now, ev)], by rw [List.getElem?_set_self hi]; rfl⟩
      · exact ⟨[], by rw [List.getElem?_set_ne h, hm]; rfl⟩

/-- A probe that is in flight no more, dropped, aborted or completed, is never completed later. -/
theorem not_completed_of_gone (hm : w.monitors[i]? = some m) (hb : n < m.begun)
    (hn : m.isInFlight n = false) (es : List (Nat × FleetEvent)) :
    (i, n) ∉ (w.completed es).map (·.key) := by
  induction es generalizing w m with
  | nil => simp [completed]
  | cons u es ih =>
    obtain ⟨now, e⟩ := u
    rw [completed, List.map_append, List.mem_append, not_or]
    constructor
    · intro hmem
      obtain ⟨q, hq, hkey⟩ := List.mem_map.1 hmem
      obtain ⟨m', p, -, hm', hp, -⟩ := completes?_eq_some (Option.mem_toList.1 hq)
      cases hkey
      cases hm.symm.trans hm'
      have hflight : m.isInFlight q.number = true :=
        Monitor.isInFlight_iff.2 ⟨p, List.mem_of_find?_eq_some hp, by
          simpa using List.find?_some hp⟩
      cases hn.symm.trans hflight
    · obtain ⟨es', hm'⟩ := monitor_step hm now e
      obtain ⟨hb', hn'⟩ := Monitor.gone_run hb hn es'
      exact ih hm' hb' hn'

/-! ## What has begun -/

/-- How monitors stand after some probes have begun. -/
structure Begun (begun : List StartedProbe) (w : Fleet) : Prop where
  orderly : ∀ m ∈ w.monitors, m.Orderly
  inFlight : ∀ (i : Nat) (m : Monitor), w.monitors[i]? = some m →
    ∀ p ∈ m.inFlight, ⟨i, p.number, p.began⟩ ∈ begun
  known : ∀ b ∈ begun, ∃ m, w.monitors[b.monitor]? = some m ∧ b.number < m.begun
  once : (begun.map (·.key)).Nodup

theorem begun_empty : Begun [] empty :=
  ⟨fun _ h => (nomatch h), fun _ _ h => (nomatch h), fun _ h => (nomatch h), List.nodup_nil⟩

theorem Begun.add (h : Begun begun w) (now : Nat) (t : ProbeTarget) :
    Begun begun (w.step now (.add t)) where
  orderly m hm := by
    rcases List.mem_append.1 hm with hm | hm
    · exact h.orderly m hm
    · cases List.mem_singleton.1 hm
      exact Monitor.orderly_new t
  inFlight i m hm p hp := by
    rcases Monitor.getElem?_concat_cases hm with hold | ⟨-, rfl⟩
    · exact h.inFlight i m hold p hp
    · cases hp
  known b hb := by
    obtain ⟨m, hm, hlt⟩ := h.known b hb
    obtain ⟨hi, -⟩ := List.getElem?_eq_some_iff.1 hm
    exact ⟨m, by rw [step, List.getElem?_append_left hi, hm], hlt⟩
  once := h.once

theorem Begun.happens (h : Begun begun w) (hm : w.monitors[i]? = some m) (now : Nat)
    (ev : MonitorEvent) :
    Begun (begun ++ (w.begins? now (.happens i ev)).toList) (w.step now (.happens i ev)) := by
  obtain ⟨hi, -⟩ := List.getElem?_eq_some_iff.1 hm
  rw [step_happens hm, begins?_happens hm]
  have hnumber : (i, m.begun) ∉ begun.map (·.key) := fun hmem => by
    obtain ⟨b, hb, hkey⟩ := List.mem_map.1 hmem
    obtain ⟨m₁, hm₁, hlt⟩ := h.known b hb
    obtain ⟨rfl, hnumber⟩ : b.monitor = i ∧ b.number = m.begun := Prod.mk.inj hkey
    cases hm.symm.trans hm₁
    exact Nat.ne_of_lt hlt hnumber
  refine ⟨Monitor.orderly_set h.orderly i ((h.orderly m (List.mem_of_getElem? hm)).step now ev),
    fun k m₁ hm₁ p hp => ?_, fun b hb => ?_, ?_⟩
  · rw [List.mem_append]
    by_cases hk : i = k
    · subst hk
      rw [List.getElem?_set_self hi, Option.some.injEq] at hm₁
      subst hm₁
      rcases Monitor.mem_inFlight_step hp with hold | ⟨rfl, hmore⟩
      · exact .inl (h.inFlight i m hm p hold)
      · exact .inr (by simp [hmore])
    · rw [List.getElem?_set_ne hk] at hm₁
      exact .inl (h.inFlight k m₁ hm₁ p hp)
  · rcases List.mem_append.1 hb with hold | hnew
    · obtain ⟨m₁, hm₁, hlt⟩ := h.known b hold
      by_cases hk : i = b.monitor
      · subst hk
        cases hm.symm.trans hm₁
        refine ⟨_, List.getElem?_set_self hi, ?_⟩
        rcases m.begun_step now ev with hsame | hmore <;> omega
      · exact ⟨m₁, by rw [List.getElem?_set_ne hk, hm₁], hlt⟩
    · split at hnew
      · cases hnew
      · rename_i hmore
        cases List.mem_singleton.1 hnew
        refine ⟨_, List.getElem?_set_self hi, ?_⟩
        have hbegun := m.begun_step now ev
        dsimp only
        omega
  · split
    · simpa using h.once
    · rw [List.map_append, List.nodup_append]
      refine ⟨h.once, by simp, fun a ha b hb => ?_⟩
      cases List.mem_singleton.1 hb
      rintro rfl
      exact hnumber ha

/-! ## What is completed -/

/-- How monitors stand after some probes were completed: these are recorded, each has begun and is
out of flight, and the last of each monitor left its state. -/
structure Accounted (begun : List StartedProbe) (done : List CompletedProbe) (w : Fleet) : Prop
    extends Begun begun w where
  journal : w.journal.probes = done.map CompletedProbe.done
  gone : ∀ q ∈ done, ⟨q.monitor, q.number, q.began⟩ ∈ begun ∧
    ∃ m, w.monitors[q.monitor]? = some m ∧ m.target = q.target ∧ m.isInFlight q.number = false
  unique : (done.map (·.key)).Nodup
  state : ∀ (i : Nat) (m : Monitor), w.monitors[i]? = some m →
    m.state = ((done.filter (·.monitor = i)).getLast?.map (·.result.state)).getD .unhealthy

theorem accounted_empty : Accounted [] [] empty where
  toBegun := begun_empty
  journal := rfl
  gone _ h := nomatch h
  unique := List.nodup_nil
  state _ _ h := nomatch h

theorem Accounted.gone_step (h : Accounted begun done w) (now : Nat) (e : FleetEvent) :
    ∀ q ∈ done, ∃ m, (w.step now e).monitors[q.monitor]? = some m ∧ m.target = q.target ∧
      m.isInFlight q.number = false := by
  intro q hq
  obtain ⟨hb, m, hm, htarget, hn⟩ := h.gone q hq
  obtain ⟨m₁, hm₁, hlt⟩ := h.known _ hb
  cases hm.symm.trans hm₁
  obtain ⟨es, hstep⟩ := monitor_step hm now e
  exact ⟨_, hstep, (m.target_run es).trans htarget, (Monitor.gone_run hlt hn es).2⟩

theorem Accounted.add (h : Accounted begun done w) (now : Nat) (t : ProbeTarget) :
    Accounted begun done (w.step now (.add t)) where
  toBegun := h.toBegun.add now t
  journal := h.journal
  gone q hq := ⟨(h.gone q hq).1, h.gone_step now _ q hq⟩
  unique := h.unique
  state i m hm := by
    rcases Monitor.getElem?_concat_cases hm with hold | ⟨rfl, rfl⟩
    · exact h.state i m hold
    · -- the new monitor has completed nothing
      have hnone : done.filter (·.monitor = w.monitors.length) = [] :=
        List.filter_eq_nil_iff.2 fun q hq => by
          obtain ⟨-, m₁, hm₁, -⟩ := h.gone q hq
          obtain ⟨hlt, -⟩ := List.getElem?_eq_some_iff.1 hm₁
          simpa using Nat.ne_of_lt hlt
      rw [hnone]
      rfl

/-- An event that completes nothing leaves books and states alone. -/
theorem Accounted.silent (h : Accounted begun done w) (hm : w.monitors[i]? = some m)
    (hc : m.completion? ev = none) (now : Nat) :
    Accounted (begun ++ (w.begins? now (.happens i ev)).toList) done
      (w.step now (.happens i ev)) where
  toBegun := h.toBegun.happens hm now ev
  journal := by
    rw [step_happens hm, Journal.probes_append, Monitor.probes_step hc, List.append_nil]
    exact h.journal
  gone q hq := ⟨List.mem_append_left _ (h.gone q hq).1, h.gone_step now _ q hq⟩
  unique := h.unique
  state k m' hm' := by
    rw [step_happens hm] at hm'
    by_cases hk : i = k
    · subst hk
      obtain ⟨hi, -⟩ := List.getElem?_eq_some_iff.1 hm
      rw [List.getElem?_set_self hi, Option.some.injEq] at hm'
      rw [← hm', Monitor.state_step, hc]
      exact h.state i m hm
    · rw [List.getElem?_set_ne hk] at hm'
      exact h.state k m' hm'

/-- A probe that is completed is recorded, and leaves its state. -/
theorem Accounted.complete (h : Accounted begun done w) (hm : w.monitors[q.monitor]? = some m)
    {p : Probe} (hp : m.inFlight.find? (·.number = q.number) = some p) (ht : q.target = m.target)
    (hb : q.began = p.began) (hd : q.ended = now) :
    let e : FleetEvent := .happens q.monitor (.answered q.number q.result)
    Accounted (begun ++ (w.begins? now e).toList) (done ++ [q]) (w.step now e) := by
  intro e
  obtain ⟨hi, -⟩ := List.getElem?_eq_some_iff.1 hm
  have hnumber : p.number = q.number := by simpa using List.find?_some hp
  have hmem : p ∈ m.inFlight := List.mem_of_find?_eq_some hp
  have hflight : m.isInFlight q.number = true := Monitor.isInFlight_iff.2 ⟨p, hmem, hnumber⟩
  have hc : m.completion? (.answered q.number q.result) = some (q.number, q.result) := by
    simp [Monitor.completion?, hflight]
  have hrecord : (m.step now (.answered q.number q.result)).2 = [.probed q.done] := by
    rw [Monitor.step, Monitor.endProbe_of_inFlight hp, CompletedProbe.done, ht, hb, hd]
  refine ⟨h.toBegun.happens hm now _, ?_, fun q' hq' => ?_, ?_, fun k m' hm' => ?_⟩
  · rw [step_happens hm, Journal.probes_append, hrecord, List.map_append, ← h.journal]
    rfl
  · rcases List.mem_append.1 hq' with hold | hnew
    · exact ⟨List.mem_append_left _ (h.gone q' hold).1, h.gone_step now e q' hold⟩
    · cases List.mem_singleton.1 hnew
      refine ⟨List.mem_append_left _ (by rw [hb, ← hnumber]; exact h.inFlight _ m hm p hmem),
        (m.step now (.answered q.number q.result)).1,
        by rw [step_happens hm, List.getElem?_set_self hi],
        (m.target_run [(now, .answered q.number q.result)]).trans ht.symm,
        (Monitor.step_completed hc now).2.1⟩
  · rw [List.map_append, List.nodup_append]
    refine ⟨h.unique, by simp, fun a ha b hb => ?_⟩
    cases List.mem_singleton.1 hb
    rintro rfl
    obtain ⟨q', hq', hkey⟩ := List.mem_map.1 ha
    obtain ⟨-, m₁, hm₁, -, hout⟩ := h.gone q' hq'
    obtain ⟨hmonitor, hsame⟩ : q'.monitor = q.monitor ∧ q'.number = q.number := Prod.mk.inj hkey
    rw [hmonitor, hm] at hm₁
    cases hm₁
    rw [hsame, hflight] at hout
    cases hout
  · rw [step_happens hm] at hm'
    by_cases hk : q.monitor = k
    · subst hk
      rw [List.getElem?_set_self hi, Option.some.injEq] at hm'
      rw [← hm', (Monitor.step_completed hc now).1]
      simp
    · rw [List.getElem?_set_ne hk] at hm'
      simpa [hk] using h.state k m' hm'

theorem Accounted.step (h : Accounted begun done w) (now : Nat) (e : FleetEvent) :
    Accounted (begun ++ (w.begins? now e).toList) (done ++ (w.completes? now e).toList)
      (w.step now e) := by
  cases hq : w.completes? now e with
  | some q =>
    obtain ⟨m, p, rfl, hm, hp, ht, hb, hd⟩ := completes?_eq_some hq
    exact h.complete hm hp ht hb hd
  | none =>
    rw [Option.toList_none, List.append_nil]
    cases e with
    | add t => simpa [begins?] using h.add now t
    | happens i ev =>
      cases hm : w.monitors[i]? with
      | none => simpa [begins?, Fleet.step, hm] using h
      | some m => exact h.silent hm (completes?_eq_none hm hq) now

theorem Accounted.run (h : Accounted begun done w) (es : List (Nat × FleetEvent)) :
    Accounted (begun ++ w.beginnings es) (done ++ w.completed es) (w.run es) := by
  induction es generalizing w begun done with
  | nil => simpa [beginnings, completed, Fleet.run] using h
  | cons u es ih =>
    obtain ⟨now, e⟩ := u
    have hrun := ih (h.step now e)
    rw [List.append_assoc, List.append_assoc] at hrun
    exact hrun

/-! ## What is recorded -/

theorem Accounted.probesAt (h : Accounted begun done w) (hostname : String) (address : IpAddress) :
    w.journal.probesAt hostname address.text =
      (done.filter (·.isAt hostname address)).map CompletedProbe.done := by
  simp only [Journal.probesAt, h.journal, List.filter_map, Function.comp_def,
    CompletedProbe.isAt_done]

theorem Accounted.counter (h : Accounted begun done w) (hostname : String) (s : HealthState) :
    w.journal.metrics.get? (Happening.probesKey hostname s.text) =
      counted (done.countP (·.isOf hostname s)) := by
  simp only [Journal.get?_probesKey, h.journal, List.countP_map, Function.comp_def,
    CompletedProbe.isOf_done]

theorem Accounted.histogram (h : Accounted begun done w) (hostname : String)
    (address : IpAddress) :
    w.journal.metrics.get? (Happening.durationKey hostname address.text) =
      sampled ((done.filter (·.isAt hostname address)).map (·.micros)) := by
  simp only [Journal.get?_durationKey, h.probesAt, List.map_map, Function.comp_def,
    CompletedProbe.sample_done]

theorem Accounted.gauge (h : Accounted begun done w) (hostname : String) (address : IpAddress) :
    w.journal.metrics.get? (Happening.healthKey hostname address.text) =
      gauged ((done.filter (·.isAt hostname address)).getLast?.map (·.result.state.level)) := by
  rw [Journal.get?_healthKey, h.probesAt, List.getLast?_map, Option.map_map]
  rfl

theorem Accounted.events (h : Accounted begun done w) :
    w.journal.events.filter (·.isOfProbe) = done.map (·.event) := by
  simp only [Journal.filter_events_probe, h.journal, List.map_map, Function.comp_def,
    CompletedProbe.log_done]

/-- The monitor at an index is the only one with its hostname and its address. -/
def Sole (w : Fleet) (i : Nat) (m : Monitor) : Prop :=
  w.monitors[i]? = some m ∧ ∀ (k : Nat) (m' : Monitor), w.monitors[k]? = some m' →
    m'.target.hostname = m.target.hostname → m'.target.address = m.target.address → k = i

/-- The gauge of a monitor that is alone with its hostname and its address shows its state. -/
theorem Accounted.gauge_of_sole (h : Accounted begun done w) (hm : w.Sole i m)
    (hsome : ∃ q ∈ done, q.monitor = i) :
    w.journal.metrics.get? (Happening.healthKey m.target.hostname m.target.address.text) =
      some (.gauge m.state.level) := by
  have hown : ∀ q ∈ done, q.isAt m.target.hostname m.target.address = decide (q.monitor = i) := by
    intro q hq
    obtain ⟨-, m', hm', htarget, -⟩ := h.gone q hq
    rw [CompletedProbe.isAt, decide_eq_decide, ← htarget]
    refine ⟨fun hat => hm.2 _ m' hm' hat.1 hat.2, fun hi => ?_⟩
    subst hi
    cases hm.1.symm.trans hm'
    exact ⟨rfl, rfl⟩
  obtain ⟨q, hq, hi⟩ := hsome
  have hmem : q ∈ done.filter (·.monitor = i) := List.mem_filter.2 ⟨hq, decide_eq_true hi⟩
  have hlast := List.getLast?_eq_some_getLast (List.ne_nil_of_mem hmem)
  rw [h.gauge, List.filter_congr hown, h.state i m hm.1, hlast]
  rfl

/-- **Metrics and log account for every completed probe.** Let monitors come to be, any number of
them with any targets, the same one included, and be probed by their schedules, by their readers and
on demand, all at once, and let probes be dropped, be aborted and break down, at any moment. At
every moment the counter of a hostname and an outcome is the number of the probes of that hostname
that were completed with it. The histogram of a hostname and an address has one sample for each of
theirs that was completed, which is the time that it took, in the order of completion. Their gauge
is one or zero after the last of these, and so it shows the state of the monitor if that is the only
one with this hostname and this address and has completed a probe. And each completed probe, and
nothing else, has logged one event of its own.

A probe that is completed has begun and was in flight till then, and it is completed once. One that
is in flight has not been completed, and one that was dropped or aborted never is. -/
theorem probes_accounted (es : List (Nat × FleetEvent)) :
    let w := empty.run es
    let begun := empty.beginnings es
    let done := empty.completed es
    (∀ (hostname : String) (s : HealthState),
      w.journal.metrics.get? (Happening.probesKey hostname s.text) =
        counted (done.countP (·.isOf hostname s))) ∧
    (∀ (hostname : String) (address : IpAddress),
      w.journal.metrics.get? (Happening.durationKey hostname address.text) =
          sampled ((done.filter (·.isAt hostname address)).map (·.micros)) ∧
        w.journal.metrics.get? (Happening.healthKey hostname address.text) =
          gauged ((done.filter (·.isAt hostname address)).getLast?.map (·.result.state.level))) ∧
    (∀ (i : Nat) (m : Monitor), w.Sole i m → (∃ q ∈ done, q.monitor = i) →
      w.journal.metrics.get? (Happening.healthKey m.target.hostname m.target.address.text) =
        some (.gauge m.state.level)) ∧
    w.journal.events.filter (·.isOfProbe) = done.map (·.event) ∧
    (begun.map (·.key)).Nodup ∧ (done.map (·.key)).Nodup ∧
    (∀ q ∈ done, ⟨q.monitor, q.number, q.began⟩ ∈ begun ∧
      ∃ m, w.monitors[q.monitor]? = some m ∧ m.target = q.target) ∧
    (∀ (i n : Nat) (m : Monitor), w.monitors[i]? = some m → m.isInFlight n = true →
      (i, n) ∈ begun.map (·.key) ∧ (i, n) ∉ done.map (·.key)) ∧
    ∀ (i n : Nat) (m : Monitor), w.monitors[i]? = some m → n < m.begun → m.isInFlight n = false →
      ∀ es', (i, n) ∉ (w.completed es').map (·.key) := by
  intro w begun done
  have h : Accounted begun done w := accounted_empty.run es
  refine ⟨h.counter, fun hostname address => ⟨h.histogram hostname address,
    h.gauge hostname address⟩, fun i m hm hsome => h.gauge_of_sole hm hsome, h.events, h.once,
    h.unique, fun q hq => ?_, fun i n m hm hn => ⟨?_, fun hmem => ?_⟩,
    fun i n m hm hb hn es' => not_completed_of_gone hm hb hn es'⟩
  · obtain ⟨hb, m, hm, htarget, -⟩ := h.gone q hq
    exact ⟨hb, m, hm, htarget⟩
  · obtain ⟨p, hp, rfl⟩ := Monitor.isInFlight_iff.1 hn
    exact List.mem_map.2 ⟨_, h.inFlight i m hm p hp, rfl⟩
  · obtain ⟨q, hq, hkey⟩ := List.mem_map.1 hmem
    obtain ⟨-, m', hm', -, hout⟩ := h.gone q hq
    cases hkey
    cases hm.symm.trans hm'
    cases hn.symm.trans hout

def sharedTarget : ProbeTarget := ⟨"a", .v4 10 0 0 5, ⟨none, [], ['/'], none⟩, none⟩

def ownTarget : ProbeTarget := { sharedTarget with address := .v4 10 0 0 6 }

/-- Two monitors have the same target, and of their probes the one that began first is completed
last. The reader of a third monitor leaves, and the next one stays. -/
def overlappingProbes : List (Nat × FleetEvent) :=
  [(0, .add sharedTarget), (0, .add sharedTarget), (0, .add ownTarget), (1, .happens 0 .check),
    (2, .happens 1 .check), (2, .happens 2 .read),
    (3, .happens 1 (.answered 0 (.error .cancelled))), (5, .happens 0 (.answered 0 (.ok .ok))),
    (6, .happens 2 (.giveUp 0)), (7, .happens 2 .read), (9, .happens 2 (.answered 1 (.ok .ok)))]

theorem probes_accounted_overlappingProbes :
    let w := empty.run overlappingProbes
    w.journal.metrics.get? (Happening.probesKey "a" "healthy") = some (.counter 2) ∧
      w.journal.metrics.get? (Happening.durationKey "a" sharedTarget.address.text) =
        some (.histogram [1000, 4000]) ∧
      w.journal.metrics.get? (Happening.healthKey "a" ownTarget.address.text) =
        some (.gauge 1) ∧
      (w.journal.events.filter (·.isOfProbe)).map (·.level) = [.warn, .info, .info] ∧
      ∀ m es', w.monitors[2]? = some m → (2, 0) ∉ (w.completed es').map (·.key) := by
  intro w
  obtain ⟨hcounter, hpair, hsole, hevents, -, -, -, -, hgone⟩ := probes_accounted overlappingProbes
  have hm : w.monitors[2]? = some ((Monitor.new ownTarget).run [(2, .read), (6, .giveUp 0),
      (7, .read), (9, .answered 1 (.ok .ok))]).1 := rfl
  have hfirst : Sole w 2 _ := ⟨hm, fun k m' hm' _ haddress => by
    match k with
    | 0 | 1 =>
      cases hm'
      cases haddress
    | 2 => rfl
    | k + 3 => cases hm'⟩
  refine ⟨(hcounter "a" .healthy).trans (by decide +kernel),
    (hpair "a" sharedTarget.address).1.trans (by decide +kernel),
    hsole 2 _ hfirst ⟨⟨2, 1, ownTarget, 7, 9, .ok .ok⟩, List.mem_of_getElem? (i := 2) rfl, rfl⟩, ?_,
    fun m es' hm' => ?_⟩
  · rw [hevents]
    rfl
  · cases hm.symm.trans hm'
    exact hgone 2 0 _ hm (by decide) (by decide) es'

end Fleet

end EndpointClient
