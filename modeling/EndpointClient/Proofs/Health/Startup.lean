import EndpointClient.Proofs.Health.Roster

/-!
# EndpointClient.Proofs.Health.Startup

To start the monitors of a configuration is all or nothing.

* `Stage.probed_eq`: those that have been probed are the first addresses of the configuration.
* `Stage.made_of_sound` and `Stage.failed_of_fault`: what the making of monitors comes to if every
  address can be probed, and if one cannot. `firstFault_of`: which that is.
* `start_all_or_nothing`: both, for every configuration and every run; `start_all_or_nothing_blank`
  has a run of either kind.
-/

namespace EndpointClient
namespace Roster

open Startup (pairs)

variable {c : ClientConfig} {s : Roster}

/-- Those that have been probed are the first addresses of the configuration. -/
theorem Stage.probed_eq (h : Stage c s) : ∃ n, s.probed.map .ok =
    ((pairs c).take n).map fun p => ProbeTarget.ofConfig p.1 p.2 := by
  cases h with
  | @between ms hm hr =>
    refine ⟨ms.length, ?_⟩
    rw [← hm.targets, probed, Option.toList_none, List.map_nil, List.append_nil]
  | @failed ms p err hm hr hp he =>
    refine ⟨ms.length, ?_⟩
    rw [← hm.targets, probed, Option.toList_none, List.map_nil, List.append_nil]
  | @making ms p d hm hr hp hd =>
    refine ⟨ms.length + 1, ?_⟩
    rw [List.take_add_one, hp, Option.toList_some, List.map_append, ← hm.targets,
      List.map_singleton, hd.target, probed, List.map_append]
    rfl

/-- The first address that cannot be probed, and why. -/
structure FirstFault (ps : List (EndpointConfig × IpAddress)) (n : Nat) (err : InvalidEndpoint) :
    Prop where
  fault : ∃ p, ps[n]? = some p ∧ ProbeTarget.ofConfig p.1 p.2 = .error err
  before : ∀ (i : Nat) p, i < n → ps[i]? = some p → ∃ t, ProbeTarget.ofConfig p.1 p.2 = .ok t

variable {n : Nat} {err : InvalidEndpoint}

theorem Stage.probed_prefix (h : Stage c s) (hf : FirstFault (pairs c) n err) :
    s.probed.map .ok <+: ((pairs c).take n).map fun p => ProbeTarget.ofConfig p.1 p.2 := by
  obtain ⟨p, hp, he⟩ := hf.fault
  obtain ⟨k, hk⟩ := h.probed_eq
  have hle : k ≤ n := by
    rcases Nat.lt_or_ge n k with hlt | hge
    · have htake : ((pairs c).take k)[n]? = some p := by rw [List.getElem?_take_of_lt hlt, hp]
      have hfault : .error err ∈ ((pairs c).take k).map fun p => ProbeTarget.ofConfig p.1 p.2 :=
        List.mem_map.2 ⟨p, List.mem_of_getElem? htake, he⟩
      rw [← hk] at hfault
      obtain ⟨t, -, ht⟩ := List.mem_map.1 hfault
      cases ht
    · exact hge
  have htake : (pairs c).take k = ((pairs c).take n).take k := by
    rw [List.take_take, Nat.min_eq_left hle]
  rw [hk, htake]
  exact (List.take_prefix k _).map _

/-- At the first address that cannot be probed all comes to an end. -/
theorem Stage.failed_of_fault (h : Stage c s) (hdone : s.startup.isDone = true)
    (hf : FirstFault (pairs c) n err) : s.startup.failed = some err ∧
      MadeAll ((pairs c).take n) s.made ∧ ∀ m ∈ s.made, m.stopped = true := by
  obtain ⟨p, hp, he⟩ := hf.fault
  cases h with
  | @between ms hm hr =>
    have htodo : (pairs c).drop ms.length = [] := by simpa [Startup.isDone] using hdone
    have hle := hm.le_of_fault hp he
    obtain ⟨hn, -⟩ := List.getElem?_eq_some_iff.1 hp
    rw [List.drop_eq_nil_iff] at htodo
    omega
  | making => simp [Startup.isDone] at hdone
  | @failed ms q err' hm hr hq he' =>
    -- no monitor was made for the first fault, and the fault that was met is not before it
    have hle := hm.le_of_fault hp he
    have hge : n ≤ ms.length := by
      rcases Nat.lt_or_ge ms.length n with hlt | hge
      · obtain ⟨t, ht⟩ := hf.before _ q hlt hq
        cases ht.symm.trans he'
      · exact hge
    have hlen : ms.length = n := Nat.le_antisymm hle hge
    rw [hlen] at hm hq
    cases hp.symm.trans hq
    cases he.symm.trans he'
    exact ⟨rfl, hm, hr⟩

/-- With no such address there is nothing that ends it but the last monitor. -/
theorem Stage.made_of_sound (h : Stage c s)
    (hok : ∀ p ∈ pairs c, ∃ t, ProbeTarget.ofConfig p.1 p.2 = .ok t) :
    s.startup.failed = none ∧ (s.startup.isDone = true →
      MadeAll (pairs c) s.made ∧ ∀ m ∈ s.made, m.stopped = false) := by
  cases h with
  | @between ms hm hr =>
    refine ⟨rfl, fun hdone => ⟨?_, hr⟩⟩
    have htodo : (pairs c).drop ms.length = [] := by simpa [Startup.isDone] using hdone
    rwa [List.take_of_length_le (List.drop_eq_nil_iff.1 htodo)] at hm
  | making => exact ⟨rfl, fun hdone => by simp [Startup.isDone] at hdone⟩
  | @failed ms p err hm hr hp he =>
    obtain ⟨t, ht⟩ := hok p (List.mem_of_getElem? hp)
    cases ht.symm.trans he

/-! ## Configurations -/

theorem target_ok_iff (p : EndpointConfig × IpAddress) :
    (∃ t, ProbeTarget.ofConfig p.1 p.2 = .ok t) ↔ ∃ u, p.1.healthUri = .ok u := by
  unfold ProbeTarget.ofConfig
  cases p.1.healthUri with
  | ok u => exact ⟨fun _ => ⟨u, rfl⟩, fun _ => ⟨_, rfl⟩⟩
  | error err =>
    constructor
    · rintro ⟨t, ht⟩
      cases ht
    · rintro ⟨u, hu⟩
      cases hu

theorem mem_pairs {p : EndpointConfig × IpAddress} :
    p ∈ pairs c ↔ p.1 ∈ c.endpoints ∧ p.2 ∈ p.1.addresses := by
  simp only [pairs, List.mem_flatMap, List.mem_map]
  constructor
  · rintro ⟨e, he, a, ha, rfl⟩
    exact ⟨he, ha⟩
  · rintro ⟨he, ha⟩
    exact ⟨p.1, he, p.2, ha, rfl⟩

theorem pairs_split {before after : List EndpointConfig} {e : EndpointConfig}
    (h : c.endpoints = before ++ e :: after) : pairs c =
      pairs { c with endpoints := before } ++
        (e.addresses.map (e, ·) ++ pairs { c with endpoints := after }) := by
  simp [pairs, h]

theorem firstFault_of {before after : List EndpointConfig} {e : EndpointConfig}
    (h : c.endpoints = before ++ e :: after)
    (hok : ∀ e' ∈ before, e'.addresses ≠ [] → ∃ u, e'.healthUri = .ok u)
    (ha : e.addresses ≠ []) (he : e.healthUri = .error err) :
    FirstFault (pairs c) (pairs { c with endpoints := before }).length err := by
  have hsplit := pairs_split h
  obtain ⟨a, rest, haddresses⟩ := List.exists_cons_of_ne_nil ha
  refine ⟨⟨(e, a), ?_, ?_⟩, fun i p hi hp => ?_⟩
  · rw [hsplit, List.getElem?_append_right (Nat.le_refl _), haddresses]
    simp
  · simp [ProbeTarget.ofConfig, he, Except.map]
  · rw [hsplit, List.getElem?_append_left hi] at hp
    obtain ⟨hmem, haddr⟩ := mem_pairs.1 (List.mem_of_getElem? hp)
    exact (target_ok_iff p).2 (hok p.1 hmem (List.ne_nil_of_mem haddr))

/-- **To start the monitors is all or nothing.** Let the monitors of a configuration be made one after
another, while the schedules of those that are made run, and let the engines answer as they like. The
end comes, if only no first probe goes unanswered: after three rounds for each address at the latest.

If every endpoint with an address can be probed, the end is that there is one monitor for each address
of each endpoint, in their order. The first probe of each has been completed, and it is scheduled if
and only if its endpoint has an interval.

Else take the first endpoint with an address that cannot be probed. At all times those that have been
probed are addresses before it, in their order. In the end its fault is reported, all the addresses
before it have been probed, and the monitors made for them are stopped. From then on nothing is made,
and none of these begins a probe. -/
theorem start_all_or_nothing (c : ClientConfig) :
    (∀ rounds : List (List (Nat × StartupEvent)), (∀ r ∈ rounds, StartupEvent.Round r) →
      3 * (pairs c).length ≤ rounds.length → ((start c).run rounds.flatten).startup.isDone = true) ∧
    ∀ es,
      let s := (start c).run es
      ((∀ e ∈ c.endpoints, e.addresses ≠ [] → ∃ u, e.healthUri = .ok u) →
        s.startup.failed = none ∧ (s.startup.isDone = true →
          MadeAll (pairs c) s.made ∧ ∀ (i : Nat) p m, (pairs c)[i]? = some p →
            s.made[i]? = some m → (m.isScheduled = true ↔ 0 < p.1.checkIntervalSecs))) ∧
      ∀ before e after err, c.endpoints = before ++ e :: after →
        (∀ e' ∈ before, e'.addresses ≠ [] → ∃ u, e'.healthUri = .ok u) →
        e.addresses ≠ [] → e.healthUri = .error err →
        let sound := pairs { c with endpoints := before }
        s.probed.map .ok <+: sound.map (fun p => ProbeTarget.ofConfig p.1 p.2) ∧
        (s.startup.isDone = true →
          s.startup.failed = some err ∧ MadeAll sound s.made ∧
          (∀ m ∈ s.made, m.stopped = true ∧ m.isScheduled = false) ∧
          ∀ es', (s.run es').startup = s.startup ∧
            (s.run es').made.map (·.begun) = s.made.map (·.begun)) := by
  refine ⟨fun rounds hr hlong => ?_, fun es => ⟨fun hok => ?_, ?_⟩⟩
  · rw [← rank_eq_zero_iff]
    have hrank := (Stage.start c).rank_rounds hr
    have hfirst : (start c).rank = 3 * (pairs c).length := rfl
    omega
  · have hsound : ∀ p ∈ pairs c, ∃ t, ProbeTarget.ofConfig p.1 p.2 = .ok t := by
      intro p hp
      obtain ⟨he, ha⟩ := mem_pairs.1 hp
      exact (target_ok_iff p).2 (hok p.1 he (List.ne_nil_of_mem ha))
    obtain ⟨hfailed, hmade⟩ := ((Stage.start c).run es).made_of_sound hsound
    refine ⟨hfailed, fun hdone => ?_⟩
    obtain ⟨hall, hrunning⟩ := hmade hdone
    refine ⟨hall, fun i p m hp hm => ?_⟩
    rw [Monitor.isScheduled, hrunning m (List.mem_of_getElem? hm), Bool.not_false, Bool.and_true]
    exact (hall.2 i p m hp hm).held
  · intro before e after err hsplit hok ha he sound
    have hf := firstFault_of hsplit hok ha he
    have htake : (pairs c).take sound.length = sound := by
      rw [pairs_split hsplit, List.take_left]
    have hstage := (Stage.start c).run es
    refine ⟨htake ▸ hstage.probed_prefix hf, fun hdone => ?_⟩
    obtain ⟨hfailed, hmade, hstopped⟩ := hstage.failed_of_fault hdone hf
    refine ⟨hfailed, htake ▸ hmade, fun m hm => ⟨hstopped m hm, ?_⟩, hstage.begun_run hdone hstopped⟩
    rw [Monitor.isScheduled, hstopped m hm, Bool.not_true, Bool.and_false]

/-- An endpoint without a name is no hindrance as long as it has no address. With one it ends all, and
the monitor made before it is stopped. -/
theorem start_all_or_nothing_blank :
    let sound : EndpointConfig := { hostname := "[::1]", addresses := [.v4 10 0 0 5] }
    let idle : ClientConfig := { endpoints := [{ hostname := " " }, sound] }
    let blank : ClientConfig :=
      { endpoints := [sound, { hostname := " ", addresses := [.v4 10 0 0 6] }] }
    let rounds : List (List (Nat × StartupEvent)) :=
      List.replicate 6 [(0, .advance (.ofAge 0)), (5, .answered (.ok .ok))]
    let s := (start idle).run rounds.flatten
    let s' := (start blank).run rounds.flatten
    (s.startup.isDone = true ∧ s.startup.failed = none ∧ MadeAll (pairs idle) s.made) ∧
      s'.startup.isDone = true ∧ s'.startup.failed = some ⟨" ", .blankHostname⟩ ∧
        s'.made.length = 1 ∧ ∀ m ∈ s'.made, m.stopped = true ∧ m.isScheduled = false := by
  intro sound idle blank rounds s s'
  have hsound : ∃ u, ({ hostname := "[::1]", addresses := [.v4 10 0 0 5] } :
      EndpointConfig).healthUri = .ok u := ⟨_, rfl⟩
  have hrounds : ∀ r ∈ rounds, StartupEvent.Round r := by
    intro r hr
    cases List.eq_of_mem_replicate hr
    exact ⟨⟨0, _, List.mem_cons_self⟩, 5, _, List.mem_cons_of_mem _ List.mem_cons_self⟩
  obtain ⟨hends, hwhole⟩ := start_all_or_nothing idle
  obtain ⟨hends', hbroken⟩ := start_all_or_nothing blank
  have hdone : s.startup.isDone = true := hends rounds hrounds (by decide)
  have hdone' : s'.startup.isDone = true := hends' rounds hrounds (by decide)
  have hidle : ∀ e ∈ idle.endpoints, e.addresses ≠ [] → ∃ u, e.healthUri = .ok u := by
    intro e he ha
    rcases List.mem_cons.1 he with rfl | he
    · exact absurd rfl ha
    · cases List.mem_singleton.1 he
      exact hsound
  have hbefore : ∀ e ∈ [sound], e.addresses ≠ [] → ∃ u, e.healthUri = .ok u := by
    intro e he _
    cases List.mem_singleton.1 he
    exact hsound
  obtain ⟨hfailed, hmade⟩ := (hwhole rounds.flatten).1 hidle
  obtain ⟨-, hfault⟩ := (hbroken rounds.flatten).2 [sound] _ [] ⟨" ", .blankHostname⟩ rfl hbefore
    (List.cons_ne_nil _ _) rfl
  obtain ⟨hfailed', hmade', hstopped, -⟩ := hfault hdone'
  exact ⟨⟨hdone, hfailed, (hmade hdone).1⟩, hdone', hfailed', hmade'.1, hstopped⟩

end Roster
end EndpointClient
