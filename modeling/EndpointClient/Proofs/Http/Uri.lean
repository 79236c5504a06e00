import EndpointClient.Http.Uri
import EndpointClient.Proofs.Url.Authority
import EndpointClient.Proofs.Url.Host

/-!
# EndpointClient.Proofs.Http.Uri

Request targets with a scheme.

* `isRead_of_parse`: scheme and authority are read as they stand, and all behind them is the path and
  the query up to the fragment.
* `hostOf_eq`, `port?_eq`: a host and a port that are put together are found again.
-/

namespace EndpointClient.Http.Uri

/-! ## Reading a target with a scheme -/

structure IsScheme (cs : List Char) : Prop where
  start : ∃ c r, cs = c :: r ∧ c ≠ '/'
  sign : ∀ c ∈ cs, isSchemeChar c = true
  lower : cs.map Char.toLower = cs

theorem splitScheme_eq {scheme cs : List Char} (h : IsScheme scheme)
    {p : Option (List Char) × List Char}
    (hp : splitScheme (scheme ++ ':' :: '/' :: '/' :: cs) = .ok p) : p = (some scheme, cs) := by
  unfold splitScheme at hp
  rw [List.span_eq_takeWhile_dropWhile, List.takeWhile_append_of_pos h.sign,
    List.dropWhile_append_of_pos h.sign] at hp
  have htake : (':' :: '/' :: '/' :: cs).takeWhile isSchemeChar = [] := rfl
  have hdrop : (':' :: '/' :: '/' :: cs).dropWhile isSchemeChar = ':' :: '/' :: '/' :: cs := rfl
  rw [htake, hdrop, List.append_nil] at hp
  simp only [h.lower] at hp
  split at hp
  · cases hp
    rfl
  · split at hp
    · rename_i hlen
      obtain ⟨c, r, rfl, -⟩ := h.start
      simp only [List.length_append, List.length_cons] at hlen
      omega
    · split at hp
      · cases hp
      · cases hp
        rfl

/-- A text that an authority is followed by. -/
theorem splitAuthority_eq {authority cs : List Char}
    (ha : ∀ c ∈ authority, endsAuthority c = false) {p : List Char × List Char}
    (hp : splitAuthorityOfSome (authority ++ '/' :: cs) = .ok p) :
    p = (authority, '/' :: cs) := by
  have hin : ∀ c ∈ authority, (!endsAuthority c) = true := by
    intro c hc
    rw [ha c hc]
    rfl
  unfold splitAuthorityOfSome at hp
  split at hp
  · cases hp
  · unfold splitAuthority at hp
    rw [List.takeWhile_append_of_pos hin, List.dropWhile_append_of_pos hin] at hp
    have htake : ('/' :: cs).takeWhile (fun c => !endsAuthority c) = [] := rfl
    have hdrop : ('/' :: cs).dropWhile (fun c => !endsAuthority c) = '/' :: cs := rfl
    rw [htake, hdrop, List.append_nil] at hp
    obtain ⟨scan, -, hp⟩ := Text.eq_ok_of_bind hp
    split at hp
    · cases hp
      rfl
    · cases hp

/-- A query goes up to the fragment, which is dropped. -/
theorem readPathAndQuery_eq {cs path : List Char} {query : Option (List Char)}
    (h : readPathAndQuery cs = .ok (path, query)) : path = cs.takeWhile Url.isInPath ∧
      path ++ query.elim [] ('?' :: ·) = cs.takeWhile (· != '#') := by
  have hpath : ∀ c ∈ cs.takeWhile Url.isInPath, (c != '#') = true := by
    intro c hc
    have hin := List.mem_takeWhile_imp hc
    rw [Url.isInPath, Bool.and_eq_true] at hin
    exact hin.2
  have happend := List.takeWhile_append_dropWhile (p := Url.isInPath) (l := cs)
  have hsplit : cs.takeWhile (· != '#') =
      cs.takeWhile Url.isInPath ++ (cs.dropWhile Url.isInPath).takeWhile (· != '#') := by
    rw [← List.takeWhile_append_of_pos hpath, happend]
  rw [hsplit]
  have hrest := Url.tail_cases (Url.takeWhile_dropWhile_self Url.isInPath cs)
  unfold readPathAndQuery at h
  dsimp only at h
  split at h
  · cases h
  · split at h
    · rename_i r hr
      split at h
      · cases h
        exact ⟨rfl, congrArg _ (by rw [show cs.dropWhile Url.isInPath = '?' :: r from hr]; rfl)⟩
      · cases h
    · rename_i hno
      cases h
      refine ⟨rfl, congrArg _ ?_⟩
      rcases hrest with hnil | ⟨f, hf⟩ | ⟨r, hr⟩
      · rw [hnil]
        rfl
      · rw [hf]
        rfl
      · exact absurd hr (hno r)

/-- What is read from a scheme, an authority and all behind it. -/
structure IsRead (scheme authority resource : List Char) (u : Uri) : Prop where
  scheme : u.scheme = some scheme
  authority : u.authority = authority
  pathAndQuery : u.pathAndQueryChars = resource.takeWhile (· != '#')

theorem isRead_of_parse {scheme authority cs : List Char} {u : Uri} (hs : IsScheme scheme)
    (ha : ∀ c ∈ authority, endsAuthority c = false)
    (h : parse (String.ofList (scheme ++ ':' :: '/' :: '/' :: (authority ++ '/' :: cs))) = .ok u) :
    IsRead scheme authority ('/' :: cs) u := by
  obtain ⟨c, r, rfl, hc⟩ := hs.start
  unfold parse at h
  split at h
  · cases h
  · rw [String.toList_ofList] at h
    split at h
    · rename_i heq
      cases heq
    · rename_i heq
      simp at heq
    · rename_i heq
      cases heq
      exact absurd rfl hc
    · unfold parseFull at h
      obtain ⟨p, hp, h⟩ := Text.eq_ok_of_bind h
      cases splitScheme_eq hs hp
      obtain ⟨q, hq, h⟩ := Text.eq_ok_of_bind h
      cases splitAuthority_eq ha hq
      dsimp only at h
      split at h
      · cases h
      · obtain ⟨⟨path, query⟩, hpath, h⟩ := Text.eq_ok_of_bind h
        cases h
        obtain ⟨hp, hq⟩ := readPathAndQuery_eq hpath
        refine ⟨rfl, rfl, ?_⟩
        have hne : path.isEmpty = false := by
          rw [hp]
          rfl
        rw [pathAndQueryChars, pathChars, hne]
        exact hq

/-! ## The parts of an authority without user information -/

theorem afterUserInfo_eq {cs : List Char} (h : '@' ∉ cs) : afterUserInfo cs = cs := by
  have hall : ∀ c ∈ cs.reverse, (c != '@') = true := by
    intro c hc
    rw [bne_iff_ne]
    rintro rfl
    exact h (List.mem_reverse.1 hc)
  rw [afterUserInfo, List.takeWhile_eq_self_iff.2 hall, List.reverse_reverse]

def portChars (port : Option Nat) : List Char := port.elim [] fun p => ':' :: Text.natText p

variable {host : List Char} {port : Option Nat}

theorem not_mem_portChars {c : Char} (hc : c.isDigit = false) (hcolon : c ≠ ':') :
    c ∉ portChars port := by
  cases port with
  | none => exact List.not_mem_nil
  | some p =>
    intro hmem
    rcases List.mem_cons.1 hmem with rfl | hmem
    · exact hcolon rfl
    · rw [Text.isDigit_of_mem_natText hmem] at hc
      cases hc

theorem not_mem_authority (h : Host.IsText host) {c : Char} (hc : Idna.isDenied c = true)
    (hcolon : c ≠ ':') (hopen : c ≠ '[') (hclose : c ≠ ']') : c ∉ host ++ portChars port := by
  have hdigit : c.isDigit = false := by
    rw [← Bool.not_eq_true]
    intro hd
    rw [Host.isDenied_of_isDigit hd] at hc
    cases hc
  intro hmem
  rcases List.mem_append.1 hmem with hmem | hmem
  · rcases h.isDenied hmem with hno | rfl | rfl | rfl
    · rw [hno] at hc
      cases hc
    · exact hcolon rfl
    · exact hopen rfl
    · exact hclose rfl
  · exact not_mem_portChars hdigit hcolon hmem

theorem not_mem_of_isDenied {cs : List Char} (h : ∀ c ∈ cs, Idna.isDenied c = false) {d : Char}
    (hd : Idna.isDenied d = true) : d ∉ cs := by
  intro hmem
  rw [h d hmem] at hd
  cases hd

theorem takeWhile_bne_of_not_mem {cs : List Char} {d : Char} (h : d ∉ cs) :
    cs.takeWhile (· != d) = cs := by
  rw [List.takeWhile_eq_self_iff]
  intro c hc
  rw [bne_iff_ne]
  rintro rfl
  exact h hc

theorem hostOf_eq (h : Host.IsText host) : hostOf (host ++ portChars port) = host := by
  rw [hostOf, afterUserInfo_eq (not_mem_authority h (by decide) (by decide) (by decide) (by decide))]
  cases h with
  | name hne hall =>
    have hcolon : ∀ c ∈ host, (c != ':') = true := by
      rw [← List.takeWhile_eq_self_iff]
      exact takeWhile_bne_of_not_mem (not_mem_of_isDenied hall (by decide))
    split
    · rename_i cs heq
      obtain ⟨c, host, rfl⟩ := List.exists_cons_of_ne_nil hne
      cases heq
      exact absurd (hall '[' List.mem_cons_self) (by decide)
    · rw [List.takeWhile_append_of_pos hcolon]
      cases port with
      | none => exact List.append_nil host
      | some p => exact List.append_nil host
  | @groups cs hall =>
    have hclose : ']' ∉ cs := by
      intro hmem
      rcases hall _ hmem with hhex | hcolon
      · exact absurd hhex (by decide)
      · cases hcolon
    have hsplit : '[' :: cs ++ [']'] ++ portChars port = '[' :: (cs ++ ']' :: portChars port) := by
      simp
    have htake : (cs ++ ']' :: portChars port).takeWhile (· != ']') = cs := by
      rw [Url.takeWhile_append_cons (by decide), takeWhile_bne_of_not_mem hclose]
    rw [hsplit]
    exact congrArg ('[' :: · ++ [']']) htake

theorem readPort_of_not_digit {cs : List Char} {c : Char} (hmem : c ∈ cs)
    (hc : c.isDigit = false) (hplus : c ≠ '+') : readPort cs = none := by
  have hnone : ∀ ds : List Char, c ∈ ds → ds.all Char.isDigit = false := by
    intro ds hmem
    rw [List.all_eq_false]
    exact ⟨c, hmem, by rw [hc]; exact Bool.false_ne_true⟩
  unfold readPort
  dsimp only
  split
  · rw [hnone _ ((List.mem_cons.1 hmem).resolve_left hplus)]
    simp
  · rw [hnone _ hmem]
    simp

theorem readPort_natText {n : Nat} (hn : n ≤ 65535) : readPort (Text.natText n) = some n := by
  have hall : (Text.natText n).all Char.isDigit = true :=
    List.all_eq_true.2 fun c hc => Text.isDigit_of_mem_natText hc
  have hne : (Text.natText n).isEmpty = false := by
    simpa using Text.natText_ne_nil n
  unfold readPort
  dsimp only
  split
  · rename_i heq
    have hplus := Text.isDigit_of_mem_natText (n := n) (c := '+') (by rw [heq]; simp)
    exact absurd hplus (by decide)
  · rw [hall, hne, Text.digitsNumber_natText, if_neg]
    simpa using hn

theorem port?_eq {u : Uri} (h : Host.IsText host) (hu : u.authority = host ++ portChars port)
    (hp : ∀ p ∈ port, p ≤ 65535) : u.port? = port := by
  rw [port?, hu]
  cases port with
  | some p =>
    have hdigits : ':' ∉ (Text.natText p).reverse := by
      intro hmem
      exact absurd (Text.isDigit_of_mem_natText (List.mem_reverse.1 hmem)) (by decide)
    have hrev : (host ++ portChars (some p)).reverse =
        (Text.natText p).reverse ++ ':' :: host.reverse := by
      simp [portChars]
    have hmem : (host ++ portChars (some p)).contains ':' = true := by
      simp [portChars]
    rw [hmem, if_pos rfl, hrev, Url.takeWhile_append_cons (p := (· != ':')) rfl,
      takeWhile_bne_of_not_mem hdigits, List.reverse_reverse,
      readPort_natText (hp p rfl)]
  | none =>
    have hnone : host ++ portChars none = host := List.append_nil host
    rw [hnone]
    cases h with
    | name hne hall =>
      have hcolon : ':' ∉ host := not_mem_of_isDenied hall (by decide)
      rw [if_neg (by simpa using hcolon)]
    | @groups cs hall =>
      split
      · refine readPort_of_not_digit (c := ']') ?_ (by decide) (by decide)
        rw [List.mem_reverse, List.reverse_append, List.reverse_singleton, List.singleton_append,
          List.takeWhile_cons_of_pos (by decide)]
        exact List.mem_cons_self
      · rfl

end EndpointClient.Http.Uri
