import EndpointClient.Http.Header
import EndpointClient.Proofs.Text.Ascii
import EndpointClient.Text.Blank

/-!
# EndpointClient.Proofs.Http.HeaderField

What is read as a name and as a value.

* `HeaderName.ofChars?_eq_some_iff`: a name is a token that is not too long, in lower case.
  `HeaderName.ofChars?_map_toLower`: so it is the same in any case.
* `HeaderValue.ofBytes?_eq_some_iff`, `isValueByte_iff`: a value is any bytes without controls, the
  tab apart.
-/

namespace EndpointClient.Http

/-! ## Tokens -/

theorem isTokenChar_toLower_iff (c : Char) :
    isTokenChar c.toLower = true ↔ isTokenChar c = true := by
  refine ⟨fun h => ?_, isTokenChar_toLower⟩
  by_cases hu : c.isUpper = true
  · -- a letter is a token character whatever its lower case is
    have halpha : c.isAlphanum = true := by
      show ((c.isUpper || c.isLower) || c.isDigit) = true
      rw [hu]
      rfl
    rw [isTokenChar, halpha]
    rfl
  · rwa [Text.toLower_eq_self hu] at h

theorem isToken_map_toLower_iff (cs : List Char) :
    isToken (cs.map Char.toLower) = true ↔ isToken cs = true := by
  simp [isToken, isTokenChar_toLower_iff]

theorem ascii_of_isTokenChar {c : Char} (h : isTokenChar c = true) : c.toNat < 0x80 := by
  have hsigns : "!#$%&'*+-.^_`|~".toList.all (fun d => decide (d.toNat < 0x80)) = true := by decide
  rcases (Bool.or_eq_true _ _).mp h with halphanum | hsign
  · exact Text.ascii_of_isAlphanum halphanum
  · exact of_decide_eq_true (List.all_eq_true.1 hsigns c (List.contains_iff_mem.1 hsign))

theorem not_blank_of_isTokenChar {c : Char} (h : isTokenChar c = true) : Text.isBlank c = false :=
  Text.of_ascii (P := fun c => isTokenChar c = true → Text.isBlank c = false) (by decide +kernel)
    (ascii_of_isTokenChar h) h

theorem forall_of_isToken {cs : List Char} (h : isToken cs = true) :
    ∀ c ∈ cs, isTokenChar c = true :=
  List.all_eq_true.1 ((Bool.and_eq_true _ _).mp h).2

/-! ## Names -/

namespace HeaderName

theorem ofChars?_eq_some_iff {cs : List Char} {n : HeaderName} :
    ofChars? cs = some n ↔ Http.isToken cs = true ∧ cs.length ≤ maxNameLength ∧
      n.text.toList = cs.map Char.toLower := by
  unfold ofChars?
  constructor
  · intro h
    split at h
    · rename_i hcs
      cases h
      exact ⟨hcs.1, hcs.2, String.toList_ofList⟩
    · cases h
  · rintro ⟨htoken, hlength, htext⟩
    rw [dif_pos ⟨htoken, hlength⟩]
    obtain ⟨text, _, _⟩ := n
    simp only [← htext, String.ofList_toList]

/-- A name is the same in any case. -/
theorem ofChars?_map_toLower (cs : List Char) : ofChars? (cs.map Char.toLower) = ofChars? cs := by
  unfold ofChars?
  simp only [isToken_map_toLower_iff, List.length_map, Text.map_toLower_toLower]

/-- Two texts are read as the same if they are no names, or are the same in lower case. -/
theorem ofChars?_eq_iff (cs cs' : List Char) :
    ofChars? cs = ofChars? cs' ↔
      ofChars? cs = none ∧ ofChars? cs' = none ∨ cs.map Char.toLower = cs'.map Char.toLower := by
  constructor
  · intro he
    cases hn : ofChars? cs with
    | none => exact .inl ⟨rfl, he ▸ hn⟩
    | some n =>
      have htext := (ofChars?_eq_some_iff.1 hn).2.2
      have htext' := (ofChars?_eq_some_iff.1 (he ▸ hn)).2.2
      exact .inr (htext.symm.trans htext')
  · rintro (⟨hnone, hnone'⟩ | he)
    · rw [hnone, hnone']
    · rw [← ofChars?_map_toLower cs, ← ofChars?_map_toLower cs', he]

end HeaderName

/-! ## Values -/

theorem HeaderValue.ofBytes?_eq_some_iff {bs : Bytes} {v : HeaderValue} :
    ofBytes? bs = some v ↔ bs.all isValueByte = true ∧ v.bytes = bs := by
  unfold ofBytes?
  constructor
  · intro h
    split at h
    · rename_i hbs
      cases h
      exact ⟨hbs, rfl⟩
    · cases h
  · rintro ⟨hbs, rfl⟩
    exact dif_pos hbs

theorem isValueByte_iff {b : UInt8} : isValueByte b = true ↔ (b < 0x20 ∨ b = 0x7F → b = 0x09) := by
  simp only [isValueByte, Bool.or_eq_true, Bool.and_eq_true, beq_iff_eq, bne_iff_ne,
    decide_eq_true_eq, ← UInt8.not_lt]
  grind

end EndpointClient.Http
