import EndpointClient.Http.HeaderLine
import EndpointClient.Proofs.Http.HeaderField
import EndpointClient.Proofs.Text.Blank
import EndpointClient.Proofs.Text.Utf8
import Mathlib.Data.List.TakeDrop
import Mathlib.Data.List.TakeWhile

/-!
# EndpointClient.Proofs.Http.HeaderLine

A header field on one line is read exactly, and nothing else comes in with it.

* `Parts line name value`: the line is `name` and `value` on the two sides of its first colon, each
  between blanks. `exists_parts`: so is every line with a colon. `parse_eq_of_parts`: nothing but
  these parts is read of it, so blanks around them do not count (`parse_padded`).
* `parts_canonical`: a name, and a value that is trimmed, are the parts of the line that they are
  written on. `parse_canonical`: so a field that was read is read again.
-/

namespace EndpointClient.Http.HeaderLine

variable {line name value left right : String} {n : HeaderName} {v : HeaderValue}

/-! ## The first colon -/

theorem split?_append {left : List Char} (h : ':' ∉ left) (right : List Char) :
    split? (left ++ ':' :: right) = some (left, right) := by
  have hleft : ∀ c ∈ left, decide (c ≠ ':') = true :=
    fun c hc => decide_eq_true fun e => h (e ▸ hc)
  have htake : (':' :: right).takeWhile (fun c => decide (c ≠ ':')) = [] := rfl
  have hdrop : (':' :: right).dropWhile (fun c => decide (c ≠ ':')) = ':' :: right := rfl
  rw [split?, List.span_eq_takeWhile_dropWhile, List.takeWhile_append_of_pos hleft,
    List.dropWhile_append_of_pos hleft, htake, hdrop, List.append_nil]

theorem split?_eq_none {cs : List Char} (h : ':' ∉ cs) : split? cs = none := by
  have hcs : ∀ c ∈ cs, decide (c ≠ ':') = true := fun c hc => decide_eq_true fun e => h (e ▸ hc)
  rw [split?, List.span_eq_takeWhile_dropWhile, List.dropWhile_eq_nil_iff.2 hcs]

theorem parse_of_no_colon (h : ':' ∉ line.toList) : parse line = .error (.noColon line) := by
  rw [parse, split?_eq_none h]

theorem colon_not_mem_of_blank {cs : List Char} (h : Text.isBlankText cs = true) : ':' ∉ cs :=
  fun hcolon => absurd (List.all_eq_true.1 h ':' hcolon) (by decide)

/-! ## The parts of a line -/

/-- A line is a name and a value on the two sides of its first colon, each of them between blanks. -/
def Parts (line name value : String) : Prop :=
  ∃ left right : String, line = left ++ ":" ++ right ∧ ':' ∉ left.toList ∧
    Text.Trims left.toList name.toList ∧ Text.Trims right.toList value.toList

theorem exists_trims (s : String) : ∃ core : String, Text.Trims s.toList core.toList := by
  refine ⟨String.ofList (Text.trim s.toList), ?_⟩
  rw [String.toList_ofList]
  exact Text.trims_trim s.toList

theorem exists_parts (h : ':' ∈ line.toList) : ∃ name value, Parts line name value := by
  obtain ⟨left, right, hline, hleft⟩ := List.eq_append_cons_of_mem h
  obtain ⟨name, hname⟩ := exists_trims (String.ofList left)
  obtain ⟨value, hvalue⟩ := exists_trims (String.ofList right)
  refine ⟨name, value, _, _, ?_, by rwa [String.toList_ofList], hname, hvalue⟩
  rw [← String.toList_inj, hline]
  simp

theorem split?_of_parts (h : Parts line name value) : ∃ left right,
    split? line.toList = some (left, right) ∧ Text.trim left = name.toList ∧
      (Text.trim right).flatMap Utf8.encodeChar = value.toUTF8.data.toList := by
  obtain ⟨left, right, rfl, hleft, hname, hvalue⟩ := h
  have hline : (left ++ ":" ++ right).toList = left.toList ++ ':' :: right.toList := by simp
  refine ⟨left.toList, right.toList, ?_, hname.trim_eq, ?_⟩
  · rw [hline, split?_append hleft]
  · rw [hvalue.trim_eq, Utf8.flatMap_encodeChar]

/-- Of a line nothing but its parts is read. -/
theorem parse_eq_of_parts {line' : String} (h : Parts line name value)
    (h' : Parts line' name value) : parse line = parse line' := by
  obtain ⟨left, right, hsplit, hname, hvalue⟩ := split?_of_parts h
  obtain ⟨left', right', hsplit', hname', hvalue'⟩ := split?_of_parts h'
  simp only [parse, hsplit, hsplit', hname, hname', hvalue, hvalue']

theorem parse_eq_ok_iff (h : Parts line name value) : parse line = .ok (n, v) ↔
    HeaderName.ofChars? name.toList = some n ∧
      HeaderValue.ofBytes? value.toUTF8.data.toList = some v := by
  obtain ⟨left, right, hsplit, hname, hvalue⟩ := split?_of_parts h
  simp only [parse, hsplit, hname, hvalue]
  constructor
  · intro hok
    split at hok
    · cases hok
    · split at hok
      · cases hok
      · rename_i n' hn _ v' hv
        cases hok
        exact ⟨hn, hv⟩
  · rintro ⟨hn, hv⟩
    simp only [hn, hv]

theorem exists_parts_of_parse (h : parse line = .ok (n, v)) :
    ∃ name value, Parts line name value := by
  refine exists_parts (Decidable.byContradiction fun hcolon => ?_)
  rw [parse_of_no_colon hcolon] at h
  cases h

/-! ## Blanks around the parts -/

section Padding

variable {p q r s : String} (hp : Text.isBlankText p.toList = true)
  (hq : Text.isBlankText q.toList = true)

include hp hq

theorem colon_not_mem_padded (h : ':' ∉ line.toList) : ':' ∉ (p ++ line ++ q).toList := by
  rw [String.toList_append, String.toList_append, List.mem_append, List.mem_append]
  rintro ((hcolon | hcolon) | hcolon)
  · exact colon_not_mem_of_blank hp hcolon
  · exact h hcolon
  · exact colon_not_mem_of_blank hq hcolon

theorem trims_padded {core : String} (h : Text.Trims line.toList core.toList) :
    Text.Trims (p ++ line ++ q).toList core.toList := by
  rw [String.toList_append, String.toList_append]
  exact h.padded hp hq

/-- Blanks around the parts of a line are not read. -/
theorem parse_padded (h : ':' ∉ left.toList) (hr : Text.isBlankText r.toList = true)
    (hs : Text.isBlankText s.toList = true) :
    parse (p ++ left ++ q ++ ":" ++ (r ++ right ++ s)) = parse (left ++ ":" ++ right) := by
  obtain ⟨name, hname⟩ := exists_trims left
  obtain ⟨value, hvalue⟩ := exists_trims right
  have hplain : Parts (left ++ ":" ++ right) name value := ⟨left, right, rfl, h, hname, hvalue⟩
  have hpadded : Parts (p ++ left ++ q ++ ":" ++ (r ++ right ++ s)) name value :=
    ⟨p ++ left ++ q, r ++ right ++ s, rfl, colon_not_mem_padded hp hq h,
      trims_padded hp hq hname, trims_padded hr hs hvalue⟩
  exact parse_eq_of_parts hpadded hplain

end Padding

/-! ## Fields written on a line -/

/-- A name, and a value that is trimmed, are the parts of the line they are written on. -/
theorem parts_canonical (n : HeaderName) (h : Text.Trims value.toList value.toList) :
    Parts (n.text ++ ": " ++ value) n.text value := by
  have htoken := forall_of_isToken n.isToken
  have hblank : Text.isBlankText " ".toList = true := by decide
  refine ⟨n.text, " " ++ value ++ "", ?_, fun hcolon => ?_, ?_, trims_padded hblank rfl h⟩
  · simp [← String.toList_inj]
  · exact absurd (htoken ':' hcolon) (by decide)
  · exact .of_no_blank fun c hc => not_blank_of_isTokenChar (htoken c hc)

theorem parse_canonical (h : parse line = .ok (n, v)) : ∃ value : String,
    value.toUTF8.data.toList = v.bytes ∧ parse (n.text ++ ": " ++ value) = .ok (n, v) := by
  obtain ⟨name, value, hparts⟩ := exists_parts_of_parse h
  obtain ⟨hn, hv⟩ := (parse_eq_ok_iff hparts).1 h
  obtain ⟨-, hlength, htext⟩ := HeaderName.ofChars?_eq_some_iff.1 hn
  obtain ⟨left, right, -, -, -, hvalue⟩ := hparts
  refine ⟨value, (HeaderValue.ofBytes?_eq_some_iff.1 hv).2.symm,
    (parse_eq_ok_iff (parts_canonical n hvalue.self)).2 ⟨?_, hv⟩⟩
  refine HeaderName.ofChars?_eq_some_iff.2 ⟨n.isToken, ?_, n.isLower.symm⟩
  rwa [htext, List.length_map]

/-! ## What is read of a line -/

theorem parse_ok_iff (hsize : ∀ left right : String, line = left ++ ":" ++ right →
      ':' ∉ left.toList → left.utf8ByteSize ≤ 65535) :
    (∃ n v, parse line = .ok (n, v)) ↔ ∃ name value, Parts line name value ∧
      isToken name.toList = true ∧
      ∀ b ∈ value.toUTF8.data.toList, b < 0x20 ∨ b = 0x7F → b = 0x09 := by
  constructor
  · rintro ⟨n, v, h⟩
    obtain ⟨name, value, hparts⟩ := exists_parts_of_parse h
    obtain ⟨hn, hv⟩ := (parse_eq_ok_iff hparts).1 h
    refine ⟨name, value, hparts, (HeaderName.ofChars?_eq_some_iff.1 hn).1, fun b hb => ?_⟩
    have hbytes := (HeaderValue.ofBytes?_eq_some_iff.1 hv).1
    exact isValueByte_iff.1 (List.all_eq_true.1 hbytes b hb)
  · rintro ⟨name, value, hparts, htoken, hbytes⟩
    obtain ⟨left, right, hline, hleft, hname, -⟩ := id hparts
    have hlength : name.toList.length ≤ maxNameLength := calc
      name.toList.length ≤ left.toList.length := hname.length_le
      _ ≤ left.utf8ByteSize := Utf8.length_toList_le left
      _ ≤ 65535 := hsize left right hline hleft
    have hvalue : value.toUTF8.data.toList.all isValueByte = true :=
      List.all_eq_true.2 fun b hb => isValueByte_iff.2 (hbytes b hb)
    exact ⟨_, _, (parse_eq_ok_iff hparts).2 ⟨dif_pos ⟨htoken, hlength⟩, dif_pos hvalue⟩⟩

theorem toList_toLower (s : String) : s.toLower.toList = s.toList.map Char.toLower :=
  String.toList_map

theorem parse_ok_parts (h : parse line = .ok (n, v)) (hparts : Parts line name value) :
    n.text = name.toLower ∧ v.bytes = value.toUTF8.data.toList := by
  obtain ⟨hn, hv⟩ := (parse_eq_ok_iff hparts).1 h
  refine ⟨?_, (HeaderValue.ofBytes?_eq_some_iff.1 hv).2⟩
  rw [← String.toList_inj, (HeaderName.ofChars?_eq_some_iff.1 hn).2.2, toList_toLower]

/-- **A line holds one header field, and holds it exactly.** Let what stands in a line before its
first colon, if there is one, be 65535 bytes at most.

The line is read as a field if and only if there is a colon, the name before it is a token, and the
value behind it holds no control but the tab: no line break, no NUL and no DEL can come in with it.
Blanks at the ends of either part do not count, and a value may hold more colons. The field then is
the name in lower case with the bytes of the value. Blanks that are added to a part at either end
change nothing, whether the line is read or refused; without a colon it is refused with any of them.
A field that is read and written down with `": "` between its parts is read as the same field. -/
theorem field_read_exactly (line : String)
    (hsize : ∀ left right : String, line = left ++ ":" ++ right → ':' ∉ left.toList →
      left.utf8ByteSize ≤ 65535) :
    ((∃ n v, parse line = .ok (n, v)) ↔ ∃ name value, Parts line name value ∧
      isToken name.toList = true ∧
      ∀ b ∈ value.toUTF8.data.toList, b < 0x20 ∨ b = 0x7F → b = 0x09) ∧
    (∀ n v, parse line = .ok (n, v) → ∀ name value, Parts line name value →
      n.text = name.toLower ∧ v.bytes = value.toUTF8.data.toList) ∧
    (∀ left right p q r s : String, line = left ++ ":" ++ right → ':' ∉ left.toList →
      (∀ pad ∈ [p, q, r, s], Text.isBlankText pad.toList = true) →
      parse (p ++ left ++ q ++ ":" ++ (r ++ right ++ s)) = parse line) ∧
    (':' ∉ line.toList → ∀ p q : String,
      (∀ pad ∈ [p, q], Text.isBlankText pad.toList = true) →
      parse (p ++ line ++ q) = .error (.noColon (p ++ line ++ q))) ∧
    ∀ n v, parse line = .ok (n, v) → ∃ value : String,
      value.toUTF8.data.toList = v.bytes ∧ parse (n.text ++ ": " ++ value) = .ok (n, v) := by
  refine ⟨parse_ok_iff hsize, fun n v h name value => parse_ok_parts h, ?_, ?_,
    fun n v => parse_canonical⟩
  · intro left right p q r s hline hleft hpads
    subst hline
    exact parse_padded (hpads p (by simp)) (hpads q (by simp)) hleft (hpads r (by simp))
      (hpads s (by simp))
  · intro hcolon p q hpads
    exact parse_of_no_colon
      (colon_not_mem_padded (hpads p (by simp)) (hpads q (by simp)) hcolon)

/-- Blanks of several kinds are dropped at all four ends, and a second colon is kept. -/
theorem field_read_exactly_padded :
    let line := "  X-Note\u3000:\tsee: caf\u00e9 \u2028"
    (∀ left right : String, line = left ++ ":" ++ right → ':' ∉ left.toList →
      left.utf8ByteSize ≤ 65535) ∧
    ∃ n v, parse line = .ok (n, v) ∧ n.text = "x-note" ∧
      v.bytes = "see: caf\u00e9".toUTF8.data.toList ∧
      parse ("\n" ++ "  X-Note\u3000" ++ "\u0085" ++ ":" ++
        ("\r" ++ "\tsee: caf\u00e9 \u2028" ++ "")) = .ok (n, v) ∧
      ∃ value : String, value.toUTF8.data.toList = v.bytes ∧
        parse (n.text ++ ": " ++ value) = .ok (n, v) := by
  intro line
  have hsize : ∀ left right : String, line = left ++ ":" ++ right → ':' ∉ left.toList →
      left.utf8ByteSize ≤ 65535 := by
    intro left right hline _
    have hbytes : line.utf8ByteSize = 27 := by decide
    rw [hline, String.utf8ByteSize_append, String.utf8ByteSize_append] at hbytes
    omega
  have hparts : Parts line "X-Note" "see: caf\u00e9" :=
    ⟨"  X-Note\u3000", "\tsee: caf\u00e9 \u2028", by decide, by decide,
      Text.trims_iff.2 (by decide), Text.trims_iff.2 (by decide)⟩
  obtain ⟨hread, hfield, hpadded, -, hagain⟩ := field_read_exactly line hsize
  have hbytes : "see: caf\u00e9".toUTF8.data.toList.all isValueByte = true := by decide
  obtain ⟨n, v, h⟩ := hread.2 ⟨_, _, hparts, by decide,
    fun b hb => isValueByte_iff.1 (List.all_eq_true.1 hbytes b hb)⟩
  obtain ⟨hname, hvalue⟩ := hfield n v h _ _ hparts
  refine ⟨hsize, n, v, h, ?_, hvalue, ?_, hagain n v h⟩
  · rw [hname, ← String.toList_inj, toList_toLower]
    decide
  · rw [← h]
    exact hpadded _ _ _ _ _ _ (by decide) (by decide) (by decide)

end EndpointClient.Http.HeaderLine
