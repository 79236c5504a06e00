import EndpointClient.Engine.Link

/-!
# EndpointClient.Proofs.Engine.Timeout

A call with a time limit, next to the same call without one.

* `LinkCall.take_cases`: what an event makes of a call does not depend on its limit. The events
  after the head of a response are left to the response.
* `LinkCall.run_split`: so a call without a limit ends with one of the events on its link.
  `run_under`: a limit changes nothing but that a call may end with it.
* `timeout_covers_head`: a limit is for the head of a response, and for nothing else.
-/

namespace EndpointClient

namespace LinkCall

variable {c : LinkCall} {l : TimeLimit} {es : LinkEvents} {time : Nat} {r : LinkResult}

def under (c : LinkCall) (limit : Option TimeLimit) : LinkCall := { c with limit := limit }

/-- What an event makes of a call under every limit: the call goes on, fails, or has the head of a
response, to which all later events are left. -/
theorem take_cases (c : LinkCall) (e : LinkEvent) (later : LinkEvents) :
    (∃ c' : LinkCall, ∀ limit, (c.under limit).take e later = .goesOn (c'.under limit)) ∨
    (∃ f, ∀ limit, (c.under limit).take e later = .ended (.error f)) ∨
    ∃ head framing early, ∀ limit,
      (c.under limit).take e later = .ended (.ok ⟨head, framing, early, later⟩) := by
  obtain ⟨method, limit, phase⟩ := c
  cases phase with
  | connecting =>
    cases e with
    | connected => exact .inl ⟨⟨method, none, .receiving []⟩, fun _ => rfl⟩
    | refused => exact .inr (.inl ⟨noLink, fun _ => rfl⟩)
    | _ => exact .inl ⟨⟨method, none, .connecting⟩, fun _ => rfl⟩
  | receiving arrived =>
    cases e with
    | arrived bs =>
      simp only [take, under, receive]
      cases Http.ResponseHead.scan (arrived ++ bs) with
      | more => exact .inl ⟨⟨method, none, .receiving (arrived ++ bs)⟩, fun _ => rfl⟩
      | bad => exact .inr (.inl ⟨brokenLink, fun _ => rfl⟩)
      | got head rest =>
        cases hf : head.framing? method with
        | none => exact .inr (.inl ⟨brokenLink, fun _ => by simp only [hf]⟩)
        | some f => exact .inr (.inr ⟨head, f, rest, fun _ => by simp only [hf]⟩)
    | closed => exact .inr (.inl ⟨brokenLink, fun _ => rfl⟩)
    | broken => exact .inr (.inl ⟨brokenLink, fun _ => rfl⟩)
    | _ => exact .inl ⟨⟨method, none, .receiving arrived⟩, fun _ => rfl⟩

/-! ## From event to event -/

theorem run_cons_goesOn {c' : LinkCall} {e : LinkEvent} {later : LinkEvents}
    (h : ∀ limit, (c.under limit).take e later = .goesOn (c'.under limit)) (time : Nat) :
    (c.under none).run ((time, e) :: later) = (c'.under none).run later ∧
    ∀ l, (c.under (some l)).run ((time, e) :: later) =
      if isLate l time e then some (l.ends, .error (.timeout l.span))
      else (c'.under (some l)).run later := by
  have hnone : (c.under none).next ((time, e) :: later) = some (time, .goesOn (c'.under none)) := by
    rw [← h none]
    rfl
  refine ⟨by rw [run, hnone], fun l => ?_⟩
  have hsome : (c.under (some l)).next ((time, e) :: later) =
      some (if isLate l time e then expire l else (time, .goesOn (c'.under (some l)))) := by
    rw [← h (some l)]
    rfl
  rw [run, hsome]
  cases isLate l time e <;> rfl

theorem run_cons_ended {e : LinkEvent} {later : LinkEvents}
    (h : ∀ limit, (c.under limit).take e later = .ended r) (time : Nat) :
    (c.under none).run ((time, e) :: later) = some (time, r) ∧
    ∀ l, (c.under (some l)).run ((time, e) :: later) =
      if isLate l time e then some (l.ends, .error (.timeout l.span)) else some (time, r) := by
  have hnone : (c.under none).next ((time, e) :: later) = some (time, .ended r) := by
    rw [← h none]
    rfl
  refine ⟨by rw [run, hnone], fun l => ?_⟩
  have hsome : (c.under (some l)).next ((time, e) :: later) =
      some (if isLate l time e then expire l else (time, .ended r)) := by
    rw [← h (some l)]
    rfl
  rw [run, hsome]
  cases isLate l time e <;> rfl

theorem le_of_isLate {e : LinkEvent} (h : isLate l time e = true) : l.ends ≤ time := by
  unfold isLate at h
  split at h
  · exact Nat.le_of_lt (of_decide_eq_true h)
  · exact of_decide_eq_true h

theorem le_of_not_isLate {e : LinkEvent} (h : ¬ isLate l time e = true) : time ≤ l.ends := by
  unfold isLate at h
  split at h
  · exact Nat.le_of_not_lt (by simpa using h)
  · exact Nat.le_of_lt (Nat.lt_of_not_le (by simpa using h))

/-! ## Whole calls -/

/-- Without a limit a call ends with one of the events on its link. All that happens after the head
of a response is left to the response. -/
theorem run_split (h : (c.under none).run es = some (time, r)) :
    ∃ before e later, es = before ++ (time, e) :: later ∧ ∀ a, r = .ok a → a.later = later := by
  induction es generalizing c with
  | nil => cases h
  | cons u es ih =>
    obtain ⟨first, e⟩ := u
    rcases c.take_cases e es with ⟨c', htake⟩ | ⟨f, htake⟩ | ⟨head, framing, early, htake⟩
    · rw [(run_cons_goesOn htake first).1] at h
      obtain ⟨before, e', later, rfl, hlater⟩ := ih h
      exact ⟨(first, e) :: before, e', later, rfl, hlater⟩
    · rw [(run_cons_ended htake first).1] at h
      cases h
      exact ⟨[], e, es, rfl, fun a ha => nomatch ha⟩
    · rw [(run_cons_ended htake first).1] at h
      cases h
      exact ⟨[], e, es, rfl, fun a ha => by cases ha; rfl⟩

/-- Under a limit a call ends as it does without one, and then not after the limit, or it ends with
the limit, and then it does not end before it without one. -/
theorem run_under (c : LinkCall) (l : TimeLimit) (hes : es.Pairwise (·.1 ≤ ·.1)) :
    (∃ time r, (c.under none).run es = some (time, r) ∧ time ≤ l.ends ∧
      (c.under (some l)).run es = some (time, r)) ∨
    (c.under (some l)).run es = some (l.ends, .error (.timeout l.span)) ∧
      ∀ time r, (c.under none).run es = some (time, r) → l.ends ≤ time := by
  induction es generalizing c with
  | nil => exact .inr ⟨rfl, fun _ _ h => nomatch h⟩
  | cons u es ih =>
    obtain ⟨first, e⟩ := u
    obtain ⟨hfirst, hes⟩ := List.pairwise_cons.1 hes
    have hends {r : LinkResult} (htake : ∀ limit, (c.under limit).take e es = .ended r) :
        (∃ time r, (c.under none).run ((first, e) :: es) = some (time, r) ∧ time ≤ l.ends ∧
          (c.under (some l)).run ((first, e) :: es) = some (time, r)) ∨
        (c.under (some l)).run ((first, e) :: es) = some (l.ends, .error (.timeout l.span)) ∧
          ∀ time r, (c.under none).run ((first, e) :: es) = some (time, r) → l.ends ≤ time := by
      obtain ⟨hnone, hsome⟩ := run_cons_ended htake first
      rw [hnone, hsome]
      by_cases hlate : isLate l first e = true
      · refine .inr ⟨if_pos hlate, fun time r h => ?_⟩
        cases h
        exact le_of_isLate hlate
      · exact .inl ⟨first, r, rfl, le_of_not_isLate hlate, if_neg hlate⟩
    rcases c.take_cases e es with ⟨c', htake⟩ | ⟨f, htake⟩ | ⟨head, framing, early, htake⟩
    · obtain ⟨hnone, hsome⟩ := run_cons_goesOn htake first
      rw [hnone, hsome]
      by_cases hlate : isLate l first e = true
      · -- the call goes on without a limit, and no event comes before this one
        refine .inr ⟨if_pos hlate, fun time r h => ?_⟩
        obtain ⟨before, e', later, rfl, -⟩ := run_split h
        exact Nat.le_trans (le_of_isLate hlate) (hfirst (time, e') (by simp))
      · rw [if_neg hlate]
        exact ih c' hes
    · exact hends htake
    · exact hends htake

end LinkCall

/-- **The timeout of a request is for the head of its response, and for nothing else.** Let a
request be sent over a link on which anything happens, in time, from then on. If it comes to its
result before the timeout is over, that is its result with the timeout, too, at the same time. If
without a timeout it would come to its result later, or never, it fails with the timeout as soon as
that is over. The clock goes by whole milliseconds, and no timeout is over before its time. A
response that comes with the timeout is the one that comes without it: to its body belongs all that
happens on the link after its head, however late that is. -/
theorem timeout_covers_head (r : EngineRequest) (t : Duration) (began : Nat) (es : LinkEvents)
    (hes : es.Pairwise (·.1 ≤ ·.1)) (hbegan : ∀ u ∈ es, began ≤ u.1) :
    let free := { r with timeout := none }.send began es
    let timed := { r with timeout := some t }.send began es
    (∀ d result, free = some (began + d, result) → d < t.ticks →
      timed = some (began + d, result)) ∧
    ((∀ d result, free = some (began + d, result) → t.ticks < d) →
      timed = some (began + t.ticks, .error (.timeout t))) ∧
    ∀ time answer, timed = some (time, .ok answer) →
      free = some (time, .ok answer) ∧ time ≤ began + t.ticks ∧
        ∃ before e, es = before ++ (time, e) :: answer.later := by
  intro free timed
  cases ho : Http.Origin.of? r.method r.uri with
  | none =>
    have hfree : free = some (began, .error LinkCall.noTarget) := by
      simp only [free, EngineRequest.send, ho]
    have htimed : timed = some (began, .error LinkCall.noTarget) := by
      simp only [timed, EngineRequest.send, ho]
    refine ⟨fun d result h _ => ?_, fun h => ?_, fun time answer h => ?_⟩
    · rw [htimed, ← hfree, h]
    · cases Nat.not_lt_zero _ (h 0 _ hfree)
    · cases htimed.symm.trans h
  | some o =>
    let c : LinkCall := ⟨r.method, none, .connecting⟩
    let l : TimeLimit := ⟨t, began + t.ticks⟩
    have hfree : free = (c.under none).run es := by
      simp only [free, EngineRequest.send, ho]
      rfl
    have htimed : timed = (c.under (some l)).run es := by
      simp only [timed, EngineRequest.send, ho]
      rfl
    rw [hfree, htimed]
    rcases LinkCall.run_under c l hes with ⟨time, result, hnone, hle, hsome⟩ | ⟨hsome, hlater⟩
    · rw [hnone, hsome]
      obtain ⟨before, e, later, hsplit, hanswer⟩ := LinkCall.run_split hnone
      have hge : began ≤ time := hbegan (time, e) (by simp [hsplit])
      refine ⟨fun d result h _ => h, fun h => ?_, fun time' answer h => ?_⟩
      · have hlt := h (time - began) result (by rw [Nat.add_sub_cancel' hge])
        have hends : time ≤ began + t.ticks := hle
        omega
      · cases h
        exact ⟨rfl, hle, before, e, by rw [hanswer answer rfl, hsplit]⟩
    · rw [hsome]
      refine ⟨fun d result h hd => ?_, fun _ => rfl, fun time answer h => nomatch h⟩
      have hle : began + t.ticks ≤ began + d := hlater _ _ h
      omega

namespace LinkCall

def bareRequest : EngineRequest :=
  ⟨.get, ⟨some "http".toList, ['a'], ['/'], none⟩, .empty, none⟩

/-- The head of a response comes early, and its body much later. -/
def lateBody : LinkEvents :=
  [(3, .connected), (10, .arrived (Utf8.encode "HTTP/1.1 200 OK\r\ncontent-length: 2\r\n\r\n")),
    (9000, .arrived (Utf8.encode "hi"))]

end LinkCall

/-- A body that comes long after the timeout is over is delivered, and a head that does is not
waited for. -/
theorem timeout_covers_head_lateBody :
    (∃ answer, { LinkCall.bareRequest with timeout := some (.ofMillis 50) }.send 2
      LinkCall.lateBody = some (10, .ok answer) ∧ answer.body.parts = [Utf8.encode "hi"]) ∧
    { LinkCall.bareRequest with timeout := some (.ofMillis 5) }.send 2 LinkCall.lateBody =
      some (7, .error (.timeout (.ofMillis 5))) := by
  have hes : LinkCall.lateBody.Pairwise (·.1 ≤ ·.1) := by decide
  have hbegan : ∀ u ∈ LinkCall.lateBody, 2 ≤ u.1 := by decide
  have hfree : ({ LinkCall.bareRequest with timeout := none }.send 2 LinkCall.lateBody).any
      (fun u : Nat × LinkResult => u.1 = 10 &&
        u.2.toOption.any fun a : LinkAnswer => a.body.parts = [Utf8.encode "hi"]) = true := by
    decide +kernel
  obtain ⟨⟨time, result⟩, hfree, hresult⟩ := (Option.any_eq_true _ _).1 hfree
  rw [Bool.and_eq_true, decide_eq_true_eq] at hresult
  obtain ⟨rfl, hresult⟩ := hresult
  cases result with
  | error f => cases hresult
  | ok answer =>
    refine ⟨⟨answer, ?_, of_decide_eq_true hresult⟩, ?_⟩
    · exact (timeout_covers_head LinkCall.bareRequest (.ofMillis 50) 2 _ hes hbegan).1 8 _ hfree
        (by decide)
    · refine (timeout_covers_head LinkCall.bareRequest (.ofMillis 5) 2 _ hes hbegan).2.1
        fun d result h => ?_
      have hd : 10 = 2 + d := congrArg Prod.fst (Option.some.inj (hfree.symm.trans h))
      have hticks : (Duration.ofMillis 5).ticks = 5 := Duration.ticks_ofMillis 5
      omega

end EndpointClient
