import EndpointClient.Proofs.Connector.Asked
import EndpointClient.Proofs.Request.Settings

/-!
# EndpointClient.Proofs.Connector.ReadTimeout

How long an engine is told that a request may take.

* `timeoutOf?_eq`: a value stands for a time if it is a positive integer that 64 bits with a sign
  can hold, and for no time otherwise.
* `timeout_of_last_value`: the engine gets the time that the last value of the one property stands
  for, and no other setting matters.
* `timeout_lost_above_signed`: a positive integer that 64 bits hold only without a sign is passed
  over.
-/

namespace EndpointClient

open RequestSetting (lastValue?)

namespace ClientRequest

theorem timeoutOf?_integer (n : Int) :
    timeoutOf? (.integer n) =
      if 1 ≤ n ∧ n < Word.signedBound then some (.ofMillis n.toNat) else none := by
  have hholds := Word.holdsSigned_iff n
  have hbound := Word.signedBound_pos
  simp only [timeoutOf?, Json.asInt64?]
  by_cases hn : 1 ≤ n ∧ n < Word.signedBound
  · rw [hholds.2 (by omega), if_pos hn]
    have hpos : 0 < n := hn.1
    simp [hpos]
  · rw [if_neg hn]
    cases h : Word.holdsSigned n with
    | false => rfl
    | true =>
      -- a number that is held, and is not in the range, is not positive
      have hpos : ¬ 0 < n := by
        intro hpos
        have := hholds.1 h
        omega
      simp [hpos]

/-- A positive integer that 64 bits with a sign can hold stands for a time, and nothing else does. -/
theorem timeoutOf?_eq (value : Json) :
    timeoutOf? value =
      match value with
      | .integer n => if 1 ≤ n ∧ n < Word.signedBound then some (.ofMillis n.toNat) else none
      | _ => none := by
  cases value with
  | integer n => exact timeoutOf?_integer n
  | null => rfl
  | bool b => rfl
  | decimal m e => rfl
  | string s => rfl
  | array items => rfl
  | object fields => rfl

theorem readTimeout_make (method : Http.Method) (uri : Http.Uri)
    (settings : List RequestSetting) :
    (make method uri settings).readTimeout =
      match lastValue? "read_timeout" settings with
      | some (.integer n) => if 1 ≤ n ∧ n < Word.signedBound then some (.ofMillis n.toNat) else none
      | _ => none := by
  rw [readTimeout, readTimeoutKey, get?_make]
  cases lastValue? "read_timeout" settings with
  | none => rfl
  | some value =>
    rw [Option.bind_some, timeoutOf?_eq]
    cases value <;> rfl

end ClientRequest

/-- **The time that an engine is given.** Let a request be made with any settings in any order, with
an entity or without one, and let it be sent to be waited for or in the background. The time that
the engine is given with it depends on nothing but the last value that was set for `read_timeout`:
it is `n` milliseconds if that is an integer `n` with `1 ≤ n < 9223372036854775808`, which 64 bits
with a sign hold. For any other value, and if none was set, there is no limit of time. -/
theorem timeout_of_last_value (c : Connector) (breaks : SendOutcome → Option String)
    (method : Http.Method) (uri : Http.Uri) (settings : List RequestSetting) :
    let r := ClientRequest.make method uri settings
    let q := r.engineRequest
    c.AsksFor (.awaited r) q ∧ c.AsksFor (.background r breaks) q ∧
      q.timeout = match lastValue? "read_timeout" settings with
        | some (.integer n) =>
          if 1 ≤ n ∧ n < Word.signedBound then some (.ofMillis n.toNat) else none
        | _ => none := by
  intro r q
  refine ⟨c.asksFor (.awaited r), c.asksFor (.background r breaks), ?_⟩
  exact ClientRequest.readTimeout_make method uri settings

/-- The least integer that 64 bits hold only without a sign. -/
theorem timeout_lost_above_signed :
    let r := ClientRequest.make .get ⟨none, [], ['/'], none⟩
      [.property "read_timeout" (.integer 9223372036854775808)]
    (1 : Int) ≤ 9223372036854775808 ∧ (9223372036854775808 : Int) ≤ 18446744073709551615 ∧
      ((Connector.send {} (.awaited r)).run [(0, .advance)]).dispatch.asked.map (·.timeout) =
        [none] := by
  decide +kernel

end EndpointClient
