import EndpointClient.Text.Letter

/-!
# EndpointClient.Http.Token

Tokens of HTTP: the words that methods and header names are made of.
-/

namespace EndpointClient.Http

/-- A letter, a digit or one of the fifteen signs that a token may hold. ASCII only. -/
def isTokenChar (c : Char) : Bool :=
  c.isAlphanum || "!#$%&'*+-.^_`|~".toList.contains c

/-- A token: token characters, one at least. -/
def isToken (cs : List Char) : Bool := !cs.isEmpty && cs.all isTokenChar

theorem isTokenChar_toLower {c : Char} (h : isTokenChar c = true) :
    isTokenChar c.toLower = true := by
  by_cases hu : c.isUpper = true
  · obtain ⟨k, hk, rfl⟩ := Text.exists_of_isUpper hu
    clear h hu
    revert k
    decide
  · rw [Text.toLower_eq_self hu]
    exact h

theorem isToken_map_toLower {cs : List Char} (h : isToken cs = true) :
    isToken (cs.map Char.toLower) = true := by
  simp only [isToken, Bool.and_eq_true, List.all_eq_true, Bool.not_eq_true', List.isEmpty_eq_false_iff,
    List.mem_map, forall_exists_index, and_imp, forall_apply_eq_imp_iff₂, ne_eq, List.map_eq_nil_iff]
    at h ⊢
  exact ⟨h.1, fun c hc => isTokenChar_toLower (h.2 c hc)⟩

end EndpointClient.Http
