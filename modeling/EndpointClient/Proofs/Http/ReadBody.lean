import EndpointClient.Http.Response
import EndpointClient.Proofs.Text.Utf8

/-!
# EndpointClient.Proofs.Http.ReadBody

What comes of reading a whole body, however it was cut into chunks.

* `Chunks.Stops limit total chunk e`: after `total` bytes a chunk ends the reading with an error.
  `Chunks.exists_stop`: either no chunk of a body does that, or there is a first one.
* `Chunks.collect_ok_iff`, `Chunks.collect_error_iff`: in the first case the body is read, in the
  second reading it fails with the error of that chunk.
* `body_read_whatever_the_cut`: the text of a response is made of its bytes alone.
-/

namespace EndpointClient.Http

open Utf8 (Reads)

namespace Chunks

variable {limit : Nat} {parts : List Bytes} {chunk : Except IoError Bytes} {rest body : Chunks}
  {bs : Bytes} {e : BodyError}

/-- A chunk ends the reading of a body: it is a failure, or it passes the limit. -/
inductive Stops (limit total : Nat) : Except IoError Bytes → BodyError → Prop where
  | broken (cause : IoError) : Stops limit total (.error cause) (.broken cause)
  | tooLong {b : Bytes} (h : limit < total + b.length) : Stops limit total (.ok b) .tooLong

/-- Chunks within the limit are read, and the rest is read with what is left of it. -/
theorem collect_append (h : parts.flatten.length ≤ limit) (rest : Chunks) :
    collect limit (parts.map .ok ++ rest) =
      (collect (limit - parts.flatten.length) rest).map (parts.flatten ++ ·) := by
  induction parts generalizing limit with
  | nil =>
    simp only [List.map_nil, List.nil_append, List.flatten_nil, List.length_nil, Nat.sub_zero]
    cases collect limit rest <;> rfl
  | cons b parts ih =>
    rw [List.flatten_cons, List.length_append] at h
    have hb : ¬ limit < b.length := by omega
    rw [List.map_cons, List.cons_append, collect, if_neg hb, ih (by omega), List.flatten_cons,
      List.length_append, Nat.sub_add_eq]
    cases collect (limit - b.length - parts.flatten.length) rest with
    | error e => rfl
    | ok bs => exact congrArg Except.ok (List.append_assoc b parts.flatten bs).symm

theorem collect_all (h : parts.flatten.length ≤ limit) :
    collect limit (parts.map .ok) = .ok parts.flatten := by
  have hall := collect_append h []
  rw [List.append_nil] at hall
  rw [hall, collect]
  exact congrArg Except.ok (List.append_nil parts.flatten)

theorem collect_stop (h : parts.flatten.length ≤ limit)
    (hs : Stops limit parts.flatten.length chunk e) :
    collect limit (parts.map .ok ++ chunk :: rest) = .error e := by
  rw [collect_append h]
  cases hs with
  | broken cause => rfl
  | tooLong hb =>
    rw [collect, if_pos (by omega)]
    rfl

/-- No chunk of a body ends the reading, or there is a first one that does. -/
theorem exists_stop (limit : Nat) (body : Chunks) :
    (∃ parts : List Bytes, body = parts.map .ok ∧ parts.flatten.length ≤ limit) ∨
      ∃ (parts : List Bytes) (chunk : Except IoError Bytes) (rest : Chunks) (e : BodyError),
        body = parts.map .ok ++ chunk :: rest ∧ parts.flatten.length ≤ limit ∧
          Stops limit parts.flatten.length chunk e := by
  induction body generalizing limit with
  | nil => exact .inl ⟨[], rfl, Nat.zero_le limit⟩
  | cons chunk rest ih =>
    cases chunk with
    | error cause =>
      exact .inr ⟨[], .error cause, rest, _, rfl, Nat.zero_le limit, .broken cause⟩
    | ok b =>
      by_cases hb : limit < b.length
      · refine .inr ⟨[], .ok b, rest, _, rfl, Nat.zero_le limit, .tooLong ?_⟩
        rwa [List.flatten_nil, List.length_nil, Nat.zero_add]
      · rcases ih (limit - b.length) with
          ⟨parts, rfl, hlimit⟩ | ⟨parts, chunk, rest, e, rfl, hlimit, hs⟩
        · refine .inl ⟨b :: parts, rfl, ?_⟩
          rw [List.flatten_cons, List.length_append]
          omega
        · refine .inr ⟨b :: parts, chunk, rest, e, rfl, ?_, ?_⟩
          · rw [List.flatten_cons, List.length_append]
            omega
          · rw [List.flatten_cons, List.length_append]
            cases hs with
            | broken cause => exact .broken cause
            | tooLong h => exact .tooLong (by omega)

theorem collect_ok_iff (limit : Nat) (body : Chunks) (bs : Bytes) :
    collect limit body = .ok bs ↔
      ∃ parts : List Bytes, body = parts.map .ok ∧ bs = parts.flatten ∧ bs.length ≤ limit := by
  constructor
  · intro h
    rcases exists_stop limit body with ⟨parts, rfl, hlimit⟩ | ⟨parts, _, _, _, rfl, hlimit, hs⟩
    · rw [collect_all hlimit] at h
      cases h
      exact ⟨parts, rfl, rfl, hlimit⟩
    · rw [collect_stop hlimit hs] at h
      cases h
  · rintro ⟨parts, rfl, rfl, hlimit⟩
    exact collect_all hlimit

theorem collect_error_iff (limit : Nat) (body : Chunks) (e : BodyError) :
    collect limit body = .error e ↔
      ∃ (parts : List Bytes) (chunk : Except IoError Bytes) (rest : Chunks),
        body = parts.map .ok ++ chunk :: rest ∧ parts.flatten.length ≤ limit ∧
          Stops limit parts.flatten.length chunk e := by
  constructor
  · intro h
    rcases exists_stop limit body with
      ⟨parts, rfl, hlimit⟩ | ⟨parts, chunk, rest, _, rfl, hlimit, hs⟩
    · rw [collect_all hlimit] at h
      cases h
    · rw [collect_stop hlimit hs] at h
      cases h
      exact ⟨parts, chunk, rest, rfl, hlimit, hs⟩
  · rintro ⟨parts, chunk, rest, rfl, hlimit, hs⟩
    exact collect_stop hlimit hs

end Chunks

namespace Response

theorem text_ok_iff (r : Response) (limit : Nat) (s : String) :
    r.text limit = .ok s ↔ ∃ bs, r.bytes limit = .ok bs ∧ Reads bs s.toList := by
  rw [text]
  constructor
  · intro h
    cases hbytes : r.bytes limit with
    | error e =>
      rw [hbytes] at h
      cases h
    | ok bs =>
      rw [hbytes] at h
      cases h
      refine ⟨bs, rfl, Utf8.reads_iff.2 ?_⟩
      rw [Utf8.decodeLossy, String.toList_ofList]
  · rintro ⟨bs, hbytes, hreads⟩
    rw [hbytes]
    have hs : Utf8.decodeLossy bs = s := by
      rw [Utf8.decodeLossy, Utf8.reads_iff.1 hreads, String.ofList_toList]
    exact congrArg Except.ok hs

theorem text_error_iff (r : Response) (limit : Nat) (e : BodyError) :
    r.text limit = .error e ↔ r.bytes limit = .error e := by
  rw [text]
  cases r.bytes limit with
  | error e' =>
    constructor
    · intro h
      cases h
      rfl
    · intro h
      cases h
      rfl
  | ok bs =>
    constructor
    · intro h
      cases h
    · intro h
      cases h

/-- The text that was sent comes back, however its bytes were cut. -/
theorem text_of_parts (r : Response) {s : String} {parts : List Bytes} {limit : Nat}
    (hparts : parts.flatten = s.toUTF8.data.toList) (hlimit : s.utf8ByteSize ≤ limit) :
    { r with body := parts.map .ok }.text limit = .ok s := by
  have hlength : parts.flatten.length = s.utf8ByteSize := by
    rw [hparts]
    rfl
  rw [text_ok_iff]
  refine ⟨parts.flatten, Chunks.collect_all (by omega), ?_⟩
  rw [hparts]
  exact Utf8.reads_toUTF8 s

end Response

/-- **A body is read in the same way however it was cut.** A body is read if and only if no chunk of
it is a failure, and all chunks together are within the limit; what is read is the chunks one after
another. Else reading fails with the error of the first chunk that is a failure or passes the limit,
counting the chunks before it.

The text is there if and only if the bytes are, and fails with the same error. It is what those bytes
are read as, which is one thing only: a character for each form of one, and U+FFFD for each longest
invalid part. So the bytes of a text, cut anywhere, are read as that text within every limit that
is not below their number. -/
theorem body_read_whatever_the_cut (r : Response) (limit : Nat) :
    (∀ bs, r.bytes limit = .ok bs ↔
      ∃ parts : List Bytes, r.body = parts.map .ok ∧ bs = parts.flatten ∧ bs.length ≤ limit) ∧
    (∀ e, r.bytes limit = .error e ↔
      ∃ (parts : List Bytes) (chunk : Except IoError Bytes) (rest : Chunks),
        r.body = parts.map .ok ++ chunk :: rest ∧ parts.flatten.length ≤ limit ∧
          Chunks.Stops limit parts.flatten.length chunk e) ∧
    BodyError.tooLong.message = "length limit exceeded" ∧
    (∀ s, r.text limit = .ok s ↔ ∃ bs, r.bytes limit = .ok bs ∧ Reads bs s.toList) ∧
    (∀ e, r.text limit = .error e ↔ r.bytes limit = .error e) ∧
    (∀ bs, ∃ cs, Reads bs cs ∧ ∀ cs', Reads bs cs' → cs' = cs) ∧
    ∀ (s : String) (parts : List Bytes), parts.flatten = s.toUTF8.data.toList →
      s.utf8ByteSize ≤ limit → { r with body := parts.map .ok }.text limit = .ok s := by
  refine ⟨Chunks.collect_ok_iff limit r.body, Chunks.collect_error_iff limit r.body, rfl,
    r.text_ok_iff limit, r.text_error_iff limit, fun bs => ?_, fun s parts => r.text_of_parts⟩
  refine ⟨Utf8.decodeLossyChars bs, Utf8.reads_decodeLossyChars bs, fun cs' h => ?_⟩
  exact (Utf8.reads_iff.1 h).symm

end EndpointClient.Http
