import EndpointClient.Proofs.Http.Uri
import EndpointClient.Proofs.Url.Plain

/-!
# EndpointClient.Proofs.Http.PlainUri

Request targets of plain URLs: a web scheme, a plain name with or without a port, and a plain path.

* `scan_authority`: the scan of the authority finds nothing to object to.
* `parse_plain`: such a target is read unless it is too long, and has the parts it is put together
  of. `chars_mk`: these make the same text again.
-/

namespace EndpointClient.Http.Uri

variable {scheme host path : List Char} {port : Option Nat}

/-! ## The authority -/

theorem scan_plain {cs : List Char} (h : ∀ c ∈ cs, Host.isPlainSign c = true) {s : AuthorityScan}
    (hs : s.endsWithAt = false) : cs.foldlM AuthorityScan.step s = .ok s := by
  induction cs with
  | nil => rfl
  | cons c cs ih =>
    have hsign := Host.of_isPlainSign
      (P := fun c => (c == ':') = false ∧ (c == '[') = false ∧ (c == ']') = false ∧
        (c == '@') = false ∧ (c == '%') = false) (by decide +kernel) (h c List.mem_cons_self)
    have hin := Host.of_isPlainSign (P := fun c => isAuthorityChar c = true) (by decide +kernel)
      (h c List.mem_cons_self)
    have hstep : s.step c = .ok s := by
      obtain ⟨colons, opened, closed, percent, endsWithAt⟩ := s
      cases hs
      simp only [AuthorityScan.step, hsign, hin, if_true, Bool.false_eq_true, if_false]
    rw [List.foldlM_cons, hstep]
    exact ih fun d hd => h d (List.mem_cons_of_mem c hd)

theorem isPlainSign_of_isDigit {c : Char} (h : c.isDigit = true) : Host.isPlainSign c = true := by
  rw [Host.isPlainSign, h, Bool.or_true]
  rfl

theorem scan_authority (h : Host.IsPlain host) (port : Option Nat) :
    ∃ s, (host ++ portChars port).foldlM AuthorityScan.step {} = .ok s ∧ s.isComplete = true := by
  rw [List.foldlM_append, scan_plain h.isPlainSign rfl]
  cases port with
  | none => exact ⟨{}, rfl, rfl⟩
  | some p =>
    have hdigits : ∀ c ∈ Text.natText p, Host.isPlainSign c = true :=
      fun c hc => isPlainSign_of_isDigit (Text.isDigit_of_mem_natText hc)
    exact ⟨{ colons := 1 }, scan_plain hdigits rfl, rfl⟩

theorem splitAuthorityOfSome_plain (h : Host.IsPlain host) (port : Option Nat) (cs : List Char) :
    splitAuthorityOfSome (host ++ portChars port ++ '/' :: cs) =
      .ok (host ++ portChars port, '/' :: cs) := by
  have hin : ∀ c ∈ host ++ portChars port, (!endsAuthority c) = true := by
    have hplain {c : Char} (hc : Host.isPlainSign c = true) : (!endsAuthority c) = true :=
      Host.of_isPlainSign (P := fun c => (!endsAuthority c) = true) (by decide +kernel) hc
    intro c hc
    rcases List.mem_append.1 hc with hc | hc
    · exact hplain (h.isPlainSign c hc)
    · cases port with
      | none => cases hc
      | some p =>
        rcases List.mem_cons.1 hc with rfl | hc
        · decide
        · exact hplain (isPlainSign_of_isDigit (Text.isDigit_of_mem_natText hc))
  obtain ⟨s, hscan, hcomplete⟩ := scan_authority h port
  have htake : ('/' :: cs).takeWhile (fun c => !endsAuthority c) = [] := rfl
  have hdrop : ('/' :: cs).dropWhile (fun c => !endsAuthority c) = '/' :: cs := rfl
  unfold splitAuthorityOfSome splitAuthority
  rw [if_neg (by simp), List.takeWhile_append_of_pos hin, List.dropWhile_append_of_pos hin, htake,
    hdrop, List.append_nil]
  dsimp only
  rw [hscan]
  exact if_pos hcomplete

/-! ## The whole -/

theorem splitScheme_web (hs : Url.IsWeb scheme) (cs : List Char) :
    splitScheme (scheme ++ ':' :: '/' :: '/' :: cs) = .ok (some scheme, cs) := by
  rcases hs with rfl | rfl <;> rfl

theorem readPathAndQuery_plain (h : ∀ c ∈ path, Url.isPathSign c = true) :
    readPathAndQuery path = .ok (path, none) := by
  have hin : ∀ c ∈ path, (c != '?' && c != '#') = true := fun c hc =>
    Url.of_isPathSign (P := fun c => (c != '?' && c != '#') = true) (by decide +kernel) (h c hc)
  have hall : path.all isPathChar = true := List.all_eq_true.2 fun c hc =>
    Url.of_isPathSign (P := fun c => isPathChar c = true) (by decide +kernel) (h c hc)
  unfold readPathAndQuery
  rw [List.takeWhile_eq_self_iff.2 hin, List.dropWhile_eq_nil_iff.2 hin]
  dsimp only
  rw [hall]
  rfl

theorem parse_plain (hs : Url.IsWeb scheme) (hhost : Host.IsPlain host) {q : List Char}
    (hq : ∀ c ∈ q, Url.isPathSign c = true) {text : String}
    (htext : text.toList = scheme ++ ':' :: '/' :: '/' :: (host ++ portChars port ++ '/' :: q))
    (hsize : text.utf8ByteSize ≤ maxLength) :
    parse text = .ok ⟨some scheme, host ++ portChars port, '/' :: q, none⟩ := by
  have hfull : parse text =
      parseFull (scheme ++ ':' :: '/' :: '/' :: (host ++ portChars port ++ '/' :: q)) := by
    unfold parse
    rw [if_neg (Nat.not_lt.2 hsize), htext]
    rcases hs with rfl | rfl <;> rfl
  have hpath : ∀ c ∈ '/' :: q, Url.isPathSign c = true := List.forall_mem_cons.2 ⟨rfl, hq⟩
  have hempty : (host ++ portChars port).isEmpty = false := by
    obtain ⟨c, r, rfl, -⟩ := hhost.start
    rfl
  rw [hfull, parseFull, splitScheme_web hs]
  simp only [bind, Except.bind, splitAuthorityOfSome_plain hhost, hempty,
    readPathAndQuery_plain hpath, Bool.false_eq_true, if_false]
  rfl

theorem chars_mk (scheme authority q : List Char) :
    chars ⟨some scheme, authority, '/' :: q, none⟩ =
      scheme ++ ':' :: '/' :: '/' :: (authority ++ '/' :: q) := by
  simp [chars, pathAndQueryChars, pathChars]

end EndpointClient.Http.Uri
