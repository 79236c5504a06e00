import EndpointClient.Connector.Traffic
import EndpointClient.Proofs.Connector.Rule

/-!
# EndpointClient.Proofs.Connector.Reply

Requests whose engine reads each request body to its end, and answers a call by nothing but the
request of that call and its body.

* `EngineReply` is what such an engine makes of a call, `Exchange.Replies reply` its rule, and
  `Exchange.Replied reply q cs x` what is true of an exchange with it.
* `Dispatch.Served reply r d`: so it is of a request that was not dropped, with an entity or without.
  `Served.change`: no change breaks this as long as the engine keeps to its rule.
* `Dispatch.isOver` is a request that has ended, whose call has too. `Dispatch.due` is what is left to
  do until then, and `Served.proceeds` says that somebody can do it.
* `Served.ended_eq`, `Served.of_over`: how the request ends (`ClientRequest.endBy`), and what the
  engine gets of it, depends on the request alone.
-/

namespace EndpointClient

open Http (Chunks)

/-- What an engine makes of a request, the bytes of its body, and how the body ended. -/
abbrev EngineReply := EngineRequest → Bytes → BodyEnd → CallEnd

/-- How a request body ends that the pipe carries: an entity that fails leaves it truncated. -/
def BodyEnd.ofChunks (cs : Chunks) : BodyEnd :=
  match cs.failure? with
  | none => .clean
  | some _ => .broken .truncated

/-- The end of a request for the end of its call in line. -/
def CallEnd.inlineEnd (how : CallEnd) : DispatchEnd :=
  match how with
  | .returned _ => .completed how.outcome
  | .panicked text => .panicked text

namespace Exchange

variable {reply : EngineReply} {q : EngineRequest} {cs : Chunks} {x x' : Exchange} {c : CallEvent}

/-- The engine neither answers nor lets go of its request body before it has seen the end of the
body, and its answer is its reply. -/
def Replies (reply : EngineReply) (x : Exchange) : CallEvent → Prop
  | .dropBody => x.bodyEnd ≠ none
  | .finish how => ∃ q rest b, x.asked = q :: rest ∧ x.bodyEnd = some b ∧
      how = reply q x.received b
  | _ => True

structure Replied (reply : EngineReply) (q : EngineRequest) (cs : Chunks) (x : Exchange) :
    Prop where
  request : x.request = q
  asked : x.asked = [] ∨ x.asked = [q]
  reading : x.bodyEnd = none → x.call.isRunning = true ∧ x.pipe.readerGone = false
  whole : ∀ b, x.bodyEnd = some b → x.received = cs.bytes ∧ b = .ofChunks cs
  replied : ∀ how, x.call = .ended how → x.asked = [q] ∧ how = reply q cs.bytes (.ofChunks cs)

/-- The outcome of a request with an entity of chunks. -/
def outcomeBy (reply : EngineReply) (q : EngineRequest) (cs : Chunks) : SendOutcome :=
  let how := reply q cs.bytes (.ofChunks cs)
  match cs.failure? with
  | none => how.outcome
  | some e => if e.kind = .brokenPipe then how.outcomeOfBreak e else .error (.streamingFailure e)

namespace Replied

theorem start (capacity : Nat) (q : EngineRequest) (e : Entity) :
    (Exchange.start capacity q e).Replied reply q e.chunks where
  request := rfl
  asked := .inl rfl
  reading _ := ⟨rfl, rfl⟩
  whole _ h := by cases h
  replied _ h := by cases h

theorem writeMove (h : x.Replied reply q cs) (hm : x.WriteMove x') : x'.Replied reply q cs where
  request := hm.request.trans h.request
  asked := by rw [hm.asked]; exact h.asked
  reading := by rw [hm.bodyEnd, hm.call, hm.readerGone]; exact h.reading
  whole := by rw [hm.bodyEnd, hm.received]; exact h.whole
  replied := by rw [hm.call, hm.asked]; exact h.replied

theorem callMove (h : x.Replied reply q cs) (hx : x.Ongoing cs) (hr : x.Replies reply c)
    (hm : x.CallMove c x') : x'.Replied reply q cs := by
  have haccount := hx.account.callMove hm
  cases hm with
  | asked ha =>
    simp only [awaitsAsk, Bool.and_eq_true, List.isEmpty_iff] at ha
    have hasked : x.asked ++ [x.request] = [q] := by rw [ha.1.2, h.request, List.nil_append]
    refine ⟨h.request, .inr hasked, h.reading, h.whole, fun how hc => ?_⟩
    have hc' : x.call = .ended how := hc
    simp [hc', CallState.isRunning] at ha
  | chunk hb he hne =>
    refine ⟨h.request, h.asked, h.reading, fun b hb' => ?_, h.replied⟩
    cases he.symm.trans hb'
  | ended hb he hne hs =>
    obtain ⟨hnone, hbytes⟩ := haccount.of_clean rfl
    refine ⟨h.request, h.asked, fun hn => absurd hn (Option.some_ne_none _),
      fun b hb' => ⟨hbytes, ?_⟩, h.replied⟩
    cases hb'
    rw [BodyEnd.ofChunks, hnone]
  | cut hb he hne hs hw =>
    obtain ⟨e, hfail, hd⟩ := hx.failed_of_open (h.reading he).2 hs hw
    have hu := hd ▸ hx.account.upTo
    have hbytes : x.received = cs.bytes := by
      rcases hu.2 with ⟨-, hsent⟩ | ⟨-, hgone⟩
      · rwa [hne, List.append_nil] at hsent
      · cases (h.reading he).2.symm.trans hgone
    refine ⟨h.request, h.asked, fun hn => absurd hn (Option.some_ne_none _),
      fun b hb' => ⟨hbytes, ?_⟩, h.replied⟩
    cases hb'
    rw [BodyEnd.ofChunks, hfail]
  | handedOn hc hb hh => exact ⟨h.request, h.asked, h.reading, h.whole, h.replied⟩
  | dropped hb => exact ⟨h.request, h.asked, fun hn => absurd hn hr, h.whole, h.replied⟩
  | @finished how hc ha =>
    obtain ⟨q', rest, b, hq', hend, rfl⟩ := hr
    have hasked : x.asked = [q] := h.asked.resolve_left ha
    obtain ⟨hbytes, rfl⟩ := h.whole b hend
    cases hq'.symm.trans hasked
    refine ⟨h.request, h.asked, fun hn => ?_, h.whole, fun how hc => ?_⟩
    · cases hend.symm.trans hn
    · cases hc
      exact ⟨hasked, by rw [hbytes]⟩
  | reaped hc hh => exact absurd hh (hx.staged.not_aborted hx.kept)

theorem intends (h : x.Replied reply q cs) (hrun : x.call.isRunning = true) :
    ∃ c, x.Intends (Replies reply) c := by
  rcases h.asked with ha | ha
  · exact ⟨_, .ask hrun ha trivial⟩
  · cases he : x.bodyEnd with
    | none =>
      have hb : x.bodyHeld = true := by simp [bodyHeld, ha, (h.reading he).2]
      exact ⟨_, .pull hrun hb he trivial⟩
    | some b =>
      exact ⟨_, .finish hrun (ha ▸ List.cons_ne_nil _ _) ⟨q, [], b, ha, he, rfl⟩⟩

/-- A call that has ended has got the request and all that the entity gives. -/
theorem of_ended (h : x.Replied reply q cs) {how : CallEnd} (hc : x.call = .ended how) :
    x.asked = [q] ∧ x.received = cs.bytes := by
  refine ⟨(h.replied how hc).1, ?_⟩
  cases hb : x.bodyEnd with
  | some b => exact (h.whole b hb).1
  | none =>
    have hrun := (h.reading hb).1
    rw [hc] at hrun
    cases hrun

theorem outcome_eq (h : x.Replied reply q cs) (hx : x.Ongoing cs) {o : SendOutcome}
    (hs : x.stage = .done o) : o = outcomeBy reply q cs := by
  have hfailure {e : IoError} (hd : x.delivery = .failed e) : cs.failure? = some e :=
    hx.failure_of_failed (fun hb => (h.reading hb).2) hd
  have hst := hx.staged
  unfold Staged at hst
  rw [hs] at hst
  cases hst with
  | @joined fault how hh hw hc =>
    have hhow := (h.replied how hc).2
    cases fault with
    | none =>
      have hd : x.delivery = .finished := hw
      have hnone : cs.failure? = none := (hd ▸ hx.account.upTo).2
      simp [outcomeBy, outcomeOf, hnone, hhow]
    | some e => simp [outcomeBy, outcomeOf, hfailure hw.1, hw.2, hhow]
  | @faulted e hh hd hk => simp [outcomeBy, hfailure hd, hk]

end Replied

theorem stable_replied (q : EngineRequest) (e : Entity) :
    Stable (Replies reply) q e (Replied reply q e.chunks) where
  start capacity := .start capacity q e
  write _ hq hm := hq.writeMove hm
  call hx hq hr hm := hq.callMove hx hr hm

theorem lively_replied (q : EngineRequest) (cs : Chunks) :
    Lively (Replies reply) cs (Replied reply q cs) := by
  intro x hx hq hw
  rcases hx.wait hw with ⟨_, _, hd, -, -⟩ | ⟨hrun, -⟩
  · exact hq.intends (hq.reading (hx.bodyEnd_of_writing hd)).1
  · exact hq.intends hrun

end Exchange

/-- The end of a request that is not dropped. -/
def ClientRequest.endBy (reply : EngineReply) (r : ClientRequest) : DispatchEnd :=
  match r.entity with
  | none => (reply r.engineRequest [] .clean).inlineEnd
  | some e => .completed (Exchange.outcomeBy reply r.engineRequest e.chunks)

def ClientRequest.bodyBytes (r : ClientRequest) : Bytes :=
  match r.entity with
  | none => []
  | some e => e.chunks.bytes

namespace Dispatch

variable {reply : EngineReply} {r : ClientRequest} {d d' : Dispatch} {x : Exchange} {now : Nat}
  {ev : DispatchEvent}

/-- What the engine does keeps to its rule. The body of a call in line is empty. -/
def Replies (reply : EngineReply) (d : Dispatch) (c : CallEvent) : Prop :=
  match d.work with
  | .unbegun => True
  | .inline q => ∀ how, c = .finish how → how = reply q [] .clean
  | .streamed x => x.Replies reply c

/-- The rule is about how a call ends, and about the body that is let go of. -/
theorem replies_of_ne (d : Dispatch) {c : CallEvent} (hf : ∀ how, c ≠ .finish how)
    (hd : c ≠ .dropBody) : d.Replies reply c := by
  unfold Replies
  cases d.work with
  | unbegun => trivial
  | inline q => exact fun how h => absurd h (hf how)
  | streamed x =>
    cases c with
    | finish how => exact absurd rfl (hf how)
    | dropBody => exact absurd rfl hd
    | _ => trivial

/-- An event in which the request is not dropped and the engine keeps to its rule. -/
def Admits (reply : EngineReply) (d : Dispatch) : DispatchEvent → Prop
  | .advance => True
  | .call c => d.Replies reply c
  | .abandon => False

inductive Inline (reply : EngineReply) (r : ClientRequest) (d : Dispatch) : Prop where
  | unbegun (hw : d.work = .unbegun) (hr : d.request = r) (he : d.ended = none)
  | calling (hw : d.work = .inline r.engineRequest) (he : d.ended = none)
  | answered (hw : d.work = .inline r.engineRequest)
      (he : d.ended = some (reply r.engineRequest [] .clean).inlineEnd)

inductive Served (reply : EngineReply) (r : ClientRequest) (d : Dispatch) : Prop where
  | inline (hr : r.entity = none) (h : d.Inline reply r)
  | streamed {e : Entity} (hr : r.entity = some e)
      (h : d.Upholds (Exchange.Replied reply r.engineRequest e.chunks) r e)

theorem served_start (mode : SendMode) (capacity : Nat) (r : ClientRequest) :
    (start mode capacity r).Served reply r := by
  cases hr : r.entity with
  | none => exact .inline hr (.unbegun rfl rfl rfl)
  | some e => exact .streamed hr (upholds_start mode capacity r e)

def isOver (d : Dispatch) : Bool := d.ended.isSome && !d.callLives

def due (d : Dispatch) : Nat := if d.isOver then 0 else d.left

theorem due_le_left (d : Dispatch) : d.due ≤ d.left := by
  unfold due
  split <;> omega

theorem due_of_not_over (h : d.isOver = false) : d.due = d.left := by simp [due, h]

theorem due_of_over (h : d.isOver = true) : d.due = 0 := by simp [due, h]

theorem isOver_of_ended_none (h : d.ended = none) : d.isOver = false := by simp [isOver, h]

theorem Inline.change (h : d.Inline reply r) (hr : r.entity = none) (hev : d.Admits reply ev)
    (hc : d.Change now ev d') : d'.Inline reply r ∧ d'.due < d.due := by
  cases h with
  | unbegun hw hreq he =>
    cases hc with
    | begun hw' he' =>
      have hwork : (d.begin now).work = .inline r.engineRequest := by simp [begin, hreq, hr]
      refine ⟨.calling hwork he, ?_⟩
      have hleft : (d.begin now).left = 1 := by simp [left, hwork]
      have hbefore : d.left = 2 := by simp [left, hw, hreq, hr]
      rw [due_of_not_over (isOver_of_ended_none he), hbefore]
      exact Nat.lt_of_le_of_lt (due_le_left _) (by omega)
    | dropped | cutOff => exact hev.elim
    | wrote hw' | concluded hw' | called hw' | returned _ hw' | brokeDown _ hw' =>
      cases hw.symm.trans hw'
  | calling hw he =>
    have hbefore : d.due = 1 := by
      rw [due_of_not_over (isOver_of_ended_none he)]
      simp [left, hw]
    have hover {o : DispatchEnd} : ({ d with ended := some o } : Dispatch).due = 0 :=
      due_of_over (by simp [isOver, callLives, hw])
    rw [hbefore]
    cases hc with
    | returned result hw' he' =>
      simp only [Admits, Replies, hw] at hev
      refine ⟨.answered hw ?_, by rw [hover]; exact Nat.one_pos⟩
      rw [← hev _ rfl]
      rfl
    | brokeDown text hw' he' =>
      simp only [Admits, Replies, hw] at hev
      refine ⟨.answered hw ?_, by rw [hover]; exact Nat.one_pos⟩
      rw [← hev _ rfl]
      rfl
    | dropped | cutOff => exact hev.elim
    | begun hw' | wrote hw' | concluded hw' | called hw' => cases hw.symm.trans hw'
  | answered hw he =>
    obtain ⟨x, _, _, hw', -⟩ := hc.of_ended he
    cases hw.symm.trans hw'

/-- The call has ended of a request with an entity that is over. -/
theorem Upholds.of_over {Q : Exchange → Prop} {e : Entity} (h : d.Upholds Q r e)
    (ho : d.isOver = true) : ∃ x o how, d.work = .streamed x ∧ d.ended = some o ∧ Q x ∧
      x.call = .ended how := by
  simp only [isOver, Bool.and_eq_true, Bool.not_eq_true', Option.isSome_iff_exists] at ho
  obtain ⟨⟨o, he⟩, hlives⟩ := ho
  obtain ⟨x, -, hw, hx, hq, -, -⟩ := h.completed he
  have hhold := hx.staged.not_aborted hx.kept
  obtain ⟨how, hcall⟩ := hx.ended (by simpa [callLives, hw, hhold] using hlives)
  exact ⟨x, o, how, hw, he, hq, hcall⟩

/-- A request with an entity that is over stays so. -/
theorem Upholds.isOver_change {Q : Exchange → Prop} {e : Entity} (h : d.Upholds Q r e)
    (ho : d.isOver = true) (hc : d.Change now ev d') : d'.isOver = true := by
  obtain ⟨x, o, how, hw, he, -, hcall⟩ := h.of_over ho
  obtain ⟨y, y', c, hw', hm, rfl⟩ := hc.of_ended he
  cases hw.symm.trans hw'
  simp [isOver, he, callLives, hm.call_ended hcall, CallState.isRunning]

/-- Nothing breaks it but dropping the request, as long as the engine keeps to its rule. What happens
leaves less to do, until the request is over. -/
theorem Served.change (h : d.Served reply r) (hev : d.Admits reply ev)
    (hc : d.Change now ev d') :
    d'.Served reply r ∧ d'.due ≤ d.due ∧ (d.isOver = false → d'.due < d.due) := by
  cases h with
  | inline hr h =>
    obtain ⟨hd, hlt⟩ := h.change hr hev hc
    exact ⟨.inline hr hd, Nat.le_of_lt hlt, fun _ => hlt⟩
  | @streamed e hr h =>
    have hpermits : d.Permits (Exchange.Replies reply) ev := by
      cases ev with
      | advance => trivial
      | call c =>
        intro x hw
        rwa [Admits, Replies, hw] at hev
      | abandon => exact hev.elim
    obtain ⟨hd, hlt⟩ := h.change (Exchange.stable_replied _ e) hr hpermits hc
    have hdue (hn : d.isOver = false) : d'.due < d.due := by
      rw [due_of_not_over hn]
      exact Nat.lt_of_le_of_lt (due_le_left _) hlt
    refine ⟨.streamed hr hd, ?_, hdue⟩
    cases ho : d.isOver with
    | true => rw [due_of_over (h.isOver_change ho hc)]; exact Nat.zero_le _
    | false => exact Nat.le_of_lt (hdue ho)

theorem Served.step (h : d.Served reply r) (hev : d.Admits reply ev) (now : Nat) :
    (d.step now ev).1.Served reply r ∧ (d.step now ev).1.due ≤ d.due := by
  rcases d.step_change now ev with hsame | hc
  · rw [hsame]
    exact ⟨h, Nat.le_refl _⟩
  · obtain ⟨hd, hle, -⟩ := h.change hev hc
    exact ⟨hd, hle⟩

/-! ## Until the request is over -/

/-- What the engine sets out to do next. -/
def SetsOut (reply : EngineReply) (d : Dispatch) (c : CallEvent) : Prop :=
  match d.work with
  | .unbegun => False
  | .inline q => d.ended = none ∧ c = .finish (reply q [] .clean)
  | .streamed x => x.Intends (Exchange.Replies reply) c

theorem SetsOut.replies {c : CallEvent} (h : d.SetsOut reply c) : d.Replies reply c := by
  unfold SetsOut at h
  unfold Replies
  cases hw : d.work with
  | unbegun => trivial
  | inline q =>
    rw [hw] at h
    rintro how rfl
    cases h.2
    rfl
  | streamed x =>
    rw [hw] at h
    cases h with
    | ask hc ha hr => exact hr
    | pull hc hb he hr => exact hr
    | dropBody hc hb hr => exact hr
    | finish hc ha hr => exact hr

/-- The side of the caller makes progress, or the engine does with whatever it sets out to do. -/
def Proceeds (reply : EngineReply) (d : Dispatch) : Prop :=
  (∀ now, (d.step now .advance).1.due < d.due) ∨
    (∃ c, d.SetsOut reply c) ∧ ∀ c, d.SetsOut reply c → ∀ now, (d.step now (.call c)).1.due < d.due

theorem Inline.proceeds (h : d.Inline reply r) (hr : r.entity = none) (ho : d.isOver = false) :
    d.Proceeds reply := by
  cases hd : h with
  | unbegun hw hreq he =>
    refine .inl fun now => ?_
    have ha : d.advance now = some (d.begin now, []) := by simp [advance, he, hw]
    have hadmits : d.Admits reply .advance := trivial
    rw [step, ha]
    exact (h.change hr hadmits (advance_change ha)).2
  | calling hw he =>
    refine .inr ⟨⟨.finish (reply r.engineRequest [] .clean), by simp [SetsOut, hw, he]⟩,
      fun c hc now => ?_⟩
    have hadmits : d.Admits reply (.call c) := hc.replies
    simp only [SetsOut, hw, he, true_and] at hc
    subst hc
    rcases d.callStep_change now (.finish (reply r.engineRequest [] .clean)) with hsame | hchange
    · -- a call in line that has not ended is ended by that
      have hended := congrArg Dispatch.ended hsame
      cases hhow : reply r.engineRequest [] .clean with
      | returned result => simp [callStep, finishCall, hw, he, complete, hhow] at hended
      | panicked text => simp [callStep, finishCall, hw, he, hhow] at hended
    · exact (h.change hr hadmits hchange).2
  | answered hw he => simp [isOver, he, callLives, hw] at ho

theorem Served.proceeds (h : d.Served reply r) (ho : d.isOver = false) : d.Proceeds reply := by
  cases h with
  | inline hr h => exact h.proceeds hr ho
  | @streamed e hr h =>
    have hdue {d' : Dispatch} (hlt : d'.left < d.left) : d'.due < d.due := by
      rw [due_of_not_over ho]
      exact Nat.lt_of_le_of_lt (due_le_left _) hlt
    cases he : d.ended with
    | none =>
      rcases h.goesOn (Exchange.stable_replied _ e) (Exchange.lively_replied _ _) hr he with
        hcaller | ⟨⟨c, x, hw, hc⟩, hengine⟩
      · exact .inl fun now => hdue (hcaller now)
      · refine .inr ⟨⟨c, by rwa [SetsOut, hw]⟩, fun c' hc' now => hdue (hengine c' ⟨x, hw, ?_⟩ now)⟩
        rwa [SetsOut, hw] at hc'
    | some o =>
      -- the outcome is there, and the call goes on alone: its writer is gone
      obtain ⟨x, outcome, hw, hx, hq, hs, -⟩ := h.completed he
      have hrun : x.call.isRunning = true := by
        have hlives : d.callLives = true := by simpa [isOver, he] using ho
        simp only [callLives, hw, Bool.and_eq_true] at hlives
        exact hlives.1
      have hgone : x.pipe.writerGone = true := by
        rw [← Bool.not_eq_false, hx.account.open_iff, hs]
        exact fun e => by cases e
      obtain ⟨c, hc⟩ := hq.intends hrun
      refine .inr ⟨⟨c, by rwa [SetsOut, hw]⟩, fun c' hc' now => hdue ?_⟩
      rw [SetsOut, hw] at hc'
      rw [Dispatch.step, callStep_streamed hw, left_streamed rfl, left_streamed hw]
      exact (hx.moves_of_ready (.inr hgone) hc').left_lt

/-! ## What comes of the request -/

theorem Served.ended_eq (h : d.Served reply r) {o : DispatchEnd} (ho : d.ended = some o) :
    o = r.endBy reply := by
  cases h with
  | inline hr h =>
    cases h with
    | unbegun hw hreq he => cases ho.symm.trans he
    | calling hw he => cases ho.symm.trans he
    | answered hw he =>
      cases ho.symm.trans he
      rw [ClientRequest.endBy, hr]
  | streamed hr h =>
    obtain ⟨x, outcome, -, hx, hq, hs, rfl⟩ := h.completed ho
    rw [ClientRequest.endBy, hr, hq.outcome_eq hx hs]

theorem Served.not_dropped (h : d.Served reply r) : d.ended.any DispatchEnd.isDropped = false := by
  cases he : d.ended with
  | none => rfl
  | some o =>
    rw [h.ended_eq he, ClientRequest.endBy]
    cases r.entity with
    | none => cases reply r.engineRequest [] .clean <;> rfl
    | some e => rfl

/-- The engine was asked once, with all bytes that the entity gives. -/
theorem Served.of_over (h : d.Served reply r) (ho : d.isOver = true) :
    d.asked = [r.engineRequest] ∧ d.received = r.bodyBytes := by
  cases h with
  | inline hr h =>
    cases h with
    | unbegun hw hreq he => simp [isOver, he] at ho
    | calling hw he => simp [isOver, he] at ho
    | answered hw he => simp [asked, received, hw, ClientRequest.bodyBytes, hr]
  | streamed hr h =>
    obtain ⟨x, -, how, hw, -, hq, hcall⟩ := h.of_over ho
    obtain ⟨hasked, hbytes⟩ := hq.of_ended hcall
    simp [asked, received, hw, ClientRequest.bodyBytes, hr, hasked, hbytes]

end Dispatch
end EndpointClient
