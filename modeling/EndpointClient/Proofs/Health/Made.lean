import EndpointClient.Proofs.Health.Stop

/-!
# EndpointClient.Proofs.Health.Made

Monitors as they are made for the addresses of endpoints.

* `Made p m`: the monitor is one for the address `p`, and has its first probe behind it. `Made.step`:
  it stays one, whatever its schedule does, and also if it is stopped.
* `MadeAll ps ms`: there is one for each of some addresses, in their order.
* `Drafted p d`: the monitor is in the making for `p`. `Drafted.start` is its beginning,
  `Drafted.answer` the end of its first probe, `Drafted.made` what becomes of it.
-/

namespace EndpointClient

/-- What the schedule of a monitor does by itself. -/
def MonitorEvent.isOfSchedule : MonitorEvent → Bool
  | .takeTick => true
  | .useTick => true
  | .answered _ _ => true
  | .breakDown => true
  | _ => false

namespace Monitor

variable {m m' : Monitor} {now n : Nat} {ev : MonitorEvent}

/-- A schedule neither stops its monitor nor changes hands. -/
theorem Change.of_schedule (hc : m.Change now ev m') (hev : ev.isOfSchedule = true) :
    m'.stopped = m.stopped ∧ m'.holdsSchedule = m.holdsSchedule := by
  cases hc with
  | completed | overran | ticked | began | haltedIdle | haltedTicked | brokeDown =>
    exact ⟨rfl, rfl⟩
  | read | check | gaveUp | scheduled | stopped | dropped | shutDown | abortedProbe
  | abortedWait => cases hev

theorem step_of_schedule (hev : ev.isOfSchedule = true) (m : Monitor) (now : Nat) :
    (m.step now ev).1.target = m.target ∧ (m.step now ev).1.stopped = m.stopped ∧
      (m.step now ev).1.holdsSchedule = m.holdsSchedule := by
  rcases m.step_change now ev with hsame | hc
  · rw [hsame]
    exact ⟨rfl, rfl, rfl⟩
  · exact ⟨hc.target_eq, hc.of_schedule hev⟩

theorem begun_of_schedule (hev : ev.isOfSchedule = true) (hm : m.stopped = true) (now : Nat) :
    (m.step now ev).1.begun = m.begun := by
  rcases m.step_change now ev with hsame | hc
  · rw [hsame]
  · refine Classical.byContradiction fun hb => ?_
    rcases hc.begun_of_stopped hm hb with rfl | rfl <;> cases hev

end Monitor

/-- A monitor that was made for an address of an endpoint. Its first probe began before anything else,
and was completed. -/
structure Made (p : EndpointConfig × IpAddress) (m : Monitor) : Prop where
  target : ProbeTarget.ofConfig p.1 p.2 = .ok m.target
  probed : ∃ anchor es, m = ((Monitor.new m.target).run ((anchor, .check) :: es)).1 ∧
    0 ∈ ((Monitor.new m.target).completed ((anchor, .check) :: es)).map (·.1)
  held : m.holdsSchedule = true ↔ 0 < p.1.checkIntervalSecs

namespace Made

variable {p : EndpointConfig × IpAddress} {m : Monitor} {ev : MonitorEvent}

theorem step (h : Made p m) (now : Nat) (hev : ev.isOfSchedule = true ∨ ev = .stop) :
    Made p (m.step now ev).1 := by
  have hkept : (m.step now ev).1.target = m.target ∧
      (m.step now ev).1.holdsSchedule = m.holdsSchedule := by
    rcases hev with hev | rfl
    · obtain ⟨htarget, -, hheld⟩ := Monitor.step_of_schedule hev m now
      exact ⟨htarget, hheld⟩
    · exact ⟨rfl, rfl⟩
  obtain ⟨anchor, es, hm, hdone⟩ := h.probed
  refine ⟨hkept.1 ▸ h.target, ⟨anchor, es ++ [(now, ev)], ?_, ?_⟩, hkept.2 ▸ h.held⟩
  · rw [hkept.1, ← List.cons_append, Monitor.run_append, ← hm]
    rfl
  · rw [hkept.1, ← List.cons_append, Monitor.completed_append, List.map_append]
    exact List.mem_append_left _ hdone

end Made

/-- The monitors made for some addresses, one for each, in their order. -/
def MadeAll (ps : List (EndpointConfig × IpAddress)) (ms : List Monitor) : Prop :=
  ms.length = ps.length ∧ ∀ (i : Nat) p m, ps[i]? = some p → ms[i]? = some m → Made p m

namespace MadeAll

variable {p : EndpointConfig × IpAddress} {ps : List (EndpointConfig × IpAddress)} {m m' : Monitor}
  {ms : List Monitor} {i : Nat}

theorem append (h : MadeAll ps ms) (hm : Made p m) : MadeAll (ps ++ [p]) (ms ++ [m]) := by
  obtain ⟨hlen, hall⟩ := h
  refine ⟨by simp [hlen], fun i q k hq hk => ?_⟩
  rcases Nat.lt_trichotomy i ps.length with hlt | rfl | hgt
  · rw [List.getElem?_append_left hlt] at hq
    rw [List.getElem?_append_left (hlen ▸ hlt)] at hk
    exact hall i q k hq hk
  · rw [← hlen] at hk
    rw [List.getElem?_concat_length] at hq hk
    cases hq
    cases hk
    exact hm
  · have hout : (ps ++ [p])[i]? = none := by
      rw [List.getElem?_eq_none_iff, List.length_append]
      exact hgt
    cases hout.symm.trans hq

theorem set (h : MadeAll ps ms) (hi : ms[i]? = some m) (hm : ∀ p, Made p m → Made p m') :
    MadeAll ps (ms.set i m') := by
  obtain ⟨hlen, hall⟩ := h
  refine ⟨by simp [hlen], fun j q k hq hk => ?_⟩
  rw [List.getElem?_set] at hk
  split at hk
  · rename_i hij
    subst hij
    split at hk
    · cases hk
      exact hm q (hall i q m hq hi)
    · cases hk
  · exact hall j q k hq hk

theorem stop (h : MadeAll ps ms) : MadeAll ps (ms.map Monitor.stop) := by
  obtain ⟨hlen, hall⟩ := h
  refine ⟨by simp [hlen], fun i q k hq hk => ?_⟩
  rw [List.getElem?_map, Option.map_eq_some_iff] at hk
  obtain ⟨m, hm, rfl⟩ := hk
  exact (hall i q m hq hm).step 0 (.inr rfl)

theorem targets (h : MadeAll ps ms) :
    (ms.map (·.target)).map .ok = ps.map fun p => ProbeTarget.ofConfig p.1 p.2 := by
  obtain ⟨hlen, hall⟩ := h
  refine List.ext_getElem (by simp [hlen]) fun i hi hi' => ?_
  rw [List.length_map, List.length_map] at hi
  rw [List.length_map] at hi'
  rw [List.getElem_map, List.getElem_map, List.getElem_map]
  exact (hall i _ _ (List.getElem?_eq_getElem hi') (List.getElem?_eq_getElem hi)).target.symm

theorem le_of_fault {n k : Nat} {err : InvalidEndpoint} (h : MadeAll (ps.take k) ms)
    (hp : ps[n]? = some p) (he : ProbeTarget.ofConfig p.1 p.2 = .error err) : k ≤ n := by
  obtain ⟨hlen, hall⟩ := h
  rcases Nat.lt_or_ge n k with hlt | hge
  · have htake : (ps.take k)[n]? = some p := by rw [List.getElem?_take_of_lt hlt, hp]
    obtain ⟨hn, -⟩ := List.getElem?_eq_some_iff.1 htake
    have hm := List.getElem?_eq_getElem (hlen ▸ hn)
    cases (hall n p _ htake hm).target.symm.trans he
  · exact hge

end MadeAll

namespace MonitorKind

variable {e : EndpointConfig} {a : IpAddress}

theorem prepare_configured (e : EndpointConfig) (a : IpAddress) :
    MonitorKind.configured.prepare e a =
      (ProbeTarget.ofConfig e a).map fun t => ⟨t, e.checkInterval.map Duration.millis⟩ := rfl

theorem target_of_prepare {plan : MonitorPlan}
    (h : MonitorKind.configured.prepare e a = .ok plan) :
    ProbeTarget.ofConfig e a = .ok plan.target ∧
      plan.period = e.checkInterval.map Duration.millis := by
  rw [prepare_configured] at h
  cases ht : ProbeTarget.ofConfig e a with
  | error err =>
    rw [ht] at h
    cases h
  | ok t =>
    rw [ht] at h
    cases h
    exact ⟨rfl, rfl⟩

theorem fault_of_prepare {err : InvalidEndpoint}
    (h : MonitorKind.configured.prepare e a = .error err) :
    ProbeTarget.ofConfig e a = .error err := by
  rw [prepare_configured] at h
  cases ht : ProbeTarget.ofConfig e a with
  | ok t =>
    rw [ht] at h
    cases h
  | error err' =>
    rw [ht] at h
    cases h
    rfl

end MonitorKind

/-- The monitor in the making for an address: its first probe is in flight, or was completed. -/
inductive Drafted (p : EndpointConfig × IpAddress) : MonitorDraft → Prop where
  | probing {t : ProbeTarget} (ht : ProbeTarget.ofConfig p.1 p.2 = .ok t) (anchor : Nat) :
      Drafted p ⟨((Monitor.new t).run [(anchor, .check)]).1,
        p.1.checkInterval.map Duration.millis, anchor⟩
  | probed {t : ProbeTarget} (ht : ProbeTarget.ofConfig p.1 p.2 = .ok t) (anchor now : Nat)
      (r : ProbeResult) :
      Drafted p ⟨((Monitor.new t).run [(anchor, .check), (now, .answered 0 r)]).1,
        p.1.checkInterval.map Duration.millis, anchor⟩

namespace Drafted

variable {p : EndpointConfig × IpAddress} {d : MonitorDraft}

theorem start {plan : MonitorPlan} (h : MonitorKind.configured.prepare p.1 p.2 = .ok plan)
    (now : Nat) : Drafted p (.start plan now) := by
  obtain ⟨t, period⟩ := plan
  obtain ⟨ht, rfl⟩ := MonitorKind.target_of_prepare h
  exact .probing ht now

theorem target (h : Drafted p d) : ProbeTarget.ofConfig p.1 p.2 = .ok d.monitor.target := by
  cases h with
  | probing ht => exact ht
  | probed ht => exact ht

theorem answer (h : Drafted p d) (now : Nat) (r : ProbeResult) :
    Drafted p { d with monitor := (d.monitor.endProbe 0 now r).1 } ∧
      (d.monitor.endProbe 0 now r).1.inFlight = [] := by
  cases h with
  | probing ht anchor => exact ⟨.probed ht anchor now r, rfl⟩
  | probed ht anchor before r' => exact ⟨.probed ht anchor before r', rfl⟩

theorem answer_of_probed (h : Drafted p d) (hd : d.monitor.inFlight = []) (now : Nat)
    (r : ProbeResult) : (d.monitor.endProbe 0 now r).1 = d.monitor := by
  cases h with
  | probing => cases hd
  | probed => rfl

theorem checkInterval_isSome (e : EndpointConfig) :
    e.checkInterval.isSome = true ↔ 0 < e.checkIntervalSecs := by
  unfold EndpointConfig.checkInterval
  split
  · simpa
  · rename_i h
    simpa using h

theorem made (h : Drafted p d) (hd : d.monitor.inFlight = []) (clock : Clock) :
    Made p (d.complete clock).1 ∧ (d.complete clock).1.stopped = false := by
  cases h with
  | probing => cases hd
  | @probed t ht anchor now r =>
    have hinterval := checkInterval_isSome p.1
    cases hp : p.1.checkInterval with
    | none =>
      rw [hp] at hinterval
      exact ⟨⟨ht, ⟨anchor, [(now, .answered 0 r)], rfl, List.mem_singleton_self 0⟩, hinterval⟩, rfl⟩
    | some i =>
      rw [hp] at hinterval
      exact ⟨⟨ht, ⟨anchor, [(now, .answered 0 r), (now, .schedule clock anchor i.millis)], rfl,
        List.mem_singleton_self 0⟩, hinterval⟩, rfl⟩

end Drafted

end EndpointClient
