import EndpointClient.Proofs.Url.Resource

/-!
# EndpointClient.Proofs.Url.Authority

What is read as the user information, the host and the port of a URL.

* `splitAuthority_user`: without an `@` in front of its end an authority has no user information.
* `splitAuthority_append`: all behind the end of the authority is left for the path.
* `clean_eq`, `splitScheme?_eq_some`, `isParse_of_parse`: how a text is read up to there.
* `user_of_isParse`: what is put together of a scheme, a host, a port and a path has no user
  information if it has just that path, whatever else the scheme and the host are.
-/

namespace EndpointClient.Url

variable {kind : SchemeKind}

/-! ## Where the parts start -/

theorem dropWhile_append_cons {p : Char → Bool} {c : Char} (hc : p c = false) (x y : List Char) :
    (x ++ c :: y).dropWhile p = x.dropWhile p ++ c :: y := by
  induction x with
  | nil => exact List.dropWhile_cons_of_neg (by simp [hc])
  | cons d x ih =>
    rw [List.cons_append, List.dropWhile_cons, List.dropWhile_cons, ih]
    split <;> rfl

theorem takeWhile_append_cons {p : Char → Bool} {c : Char} (hc : p c = false) (x y : List Char) :
    (x ++ c :: y).takeWhile p = x.takeWhile p := by
  induction x with
  | nil => exact List.takeWhile_cons_of_neg (by simp [hc])
  | cons d x ih => rw [List.cons_append, List.takeWhile_cons, List.takeWhile_cons, ih]

theorem drop_length_takeWhile (p : Char → Bool) (cs : List Char) :
    cs.drop (cs.takeWhile p).length = cs.dropWhile p := by
  induction cs with
  | nil => rfl
  | cons c cs ih =>
    rw [List.takeWhile_cons, List.dropWhile_cons]
    split
    · exact ih
    · rfl

/-! ## User information -/

/-- A character that does not end an authority. -/
def isInAuthority (kind : SchemeKind) (c : Char) : Bool := !endsAuthority kind c

theorem splitUser_of_no_at {cs : List Char} (h : '@' ∉ cs.takeWhile (isInAuthority kind)) :
    splitUser kind cs = .ok ([], cs) := by
  have hdrop : (cs.takeWhile fun c => !endsAuthority kind c).reverse.dropWhile (· != '@') = [] := by
    rw [List.dropWhile_eq_nil_iff]
    intro c hc
    rw [bne_iff_ne]
    rintro rfl
    exact h (List.mem_reverse.1 hc)
  unfold splitUser
  simp only [List.span_eq_takeWhile_dropWhile]
  rw [hdrop]

/-- Whatever the user information is, the rest goes on with all behind the end of the authority. -/
theorem splitUser_append {cs user rest : List Char} (h : splitUser kind cs = .ok (user, rest)) :
    ∃ x, rest = x ++ cs.dropWhile (isInAuthority kind) := by
  unfold splitUser at h
  dsimp only at h
  split at h
  · cases h
    exact ⟨_, (List.takeWhile_append_dropWhile (p := isInAuthority kind)).symm⟩
  · split at h
    · cases h
    · cases h
      exact ⟨_, congrArg _ (drop_length_takeWhile (isInAuthority kind) cs)⟩

theorem splitHost_append {c : Char} (hc : endsAuthority kind c = true) (w : List Char)
    (inBrackets : Bool) (x : List Char) :
    ∃ y, (splitHost kind inBrackets (x ++ c :: w)).2 = y ++ c :: w := by
  induction x generalizing inBrackets with
  | nil =>
    refine ⟨[], ?_⟩
    rw [List.nil_append, splitHost, hc, Bool.or_true, if_pos rfl]
  | cons d x ih =>
    rw [List.cons_append, splitHost]
    split
    · exact ⟨d :: x, rfl⟩
    · exact ih _

theorem splitPort_append {scheme : List Char} {c : Char} (hc : c.isDigit = false) (x w : List Char)
    {port : Option Nat} {rest : List Char} (h : splitPort scheme (x ++ c :: w) = .ok (port, rest)) :
    ∃ y, rest = y ++ c :: w := by
  unfold splitPort at h
  dsimp only at h
  split at h
  · cases h
  · split at h
    · cases h
    · cases h
      rw [drop_length_takeWhile, dropWhile_append_cons hc]
      exact ⟨_, rfl⟩

/-- How an authority is read: user information, a host, and a port if a colon follows. -/
structure IsAuthority (scheme : List Char) (kind : SchemeKind) (cs : List Char) (a : Authority)
    (rest : List Char) : Prop where
  parts : ∃ afterUser afterHost, splitUser kind cs = .ok (a.user, afterUser) ∧
    (splitHost kind false afterUser).2 = afterHost ∧
      ((∃ r, afterHost = ':' :: r ∧ splitPort scheme r = .ok (a.port, rest)) ∨ rest = afterHost)

theorem isAuthority_of_split {scheme cs rest : List Char} {a : Authority}
    (h : splitAuthority scheme kind cs = .ok (a, rest)) : IsAuthority scheme kind cs a rest := by
  unfold splitAuthority at h
  obtain ⟨⟨user, afterUser⟩, huser, h⟩ := Text.eq_ok_of_bind h
  dsimp only at h
  split at h
  · cases h
  · -- either way of reading the host is followed by the same steps
    split at h
    all_goals
      obtain ⟨host, -, h⟩ := Text.eq_ok_of_bind h
      split at h
      · cases h
      · split at h
        · rename_i r hr
          obtain ⟨⟨port, rest'⟩, hport, h⟩ := Text.eq_ok_of_bind h
          cases h
          exact ⟨afterUser, _, huser, rfl, .inl ⟨r, hr, hport⟩⟩
        · obtain ⟨⟨port, rest'⟩, hport, h⟩ := Text.eq_ok_of_bind h
          cases h
          cases hport
          exact ⟨afterUser, _, huser, rfl, .inr rfl⟩

theorem endsAuthority_colon (kind : SchemeKind) : endsAuthority kind ':' = false := by
  cases kind <;> decide

theorem isDigit_of_endsAuthority {c : Char} (h : endsAuthority kind c = true) :
    c.isDigit = false := by
  rw [← Bool.not_eq_true]
  intro hd
  obtain ⟨k, hk, rfl⟩ := Text.exists_of_isDigit hd
  clear hd
  revert k
  cases kind <;> decide

theorem splitAuthority_append {scheme : List Char} {z w rest : List Char} {a : Authority}
    (h : splitAuthority scheme kind (z ++ w) = .ok (a, rest))
    (hz : ∃ c ∈ z, endsAuthority kind c = true) : ∃ y, rest = y ++ w := by
  obtain ⟨afterUser, afterHost, huser, hhost, hrest⟩ := (isAuthority_of_split h).parts
  -- the end of the authority is in `z`, and all from there on is left for what follows
  obtain ⟨c, z', hc, hend⟩ : ∃ c z', endsAuthority kind c = true ∧
      (z ++ w).dropWhile (isInAuthority kind) = c :: z' ++ w := by
    cases hdrop : z.dropWhile (isInAuthority kind) with
    | nil =>
      obtain ⟨c, hc, hend⟩ := hz
      have hin := List.dropWhile_eq_nil_iff.1 hdrop c hc
      rw [isInAuthority, hend] at hin
      cases hin
    | cons c z' =>
      have hc := dropWhile_eq_cons hdrop
      rw [isInAuthority, Bool.not_eq_false'] at hc
      rw [List.dropWhile_append, hdrop]
      exact ⟨c, z', hc, rfl⟩
  obtain ⟨x, rfl⟩ := splitUser_append huser
  rw [hend] at hhost
  obtain ⟨y, hy⟩ := splitHost_append hc (z' ++ w) false x
  rw [List.cons_append, hy] at hhost
  subst hhost
  have hrest : ∃ y, rest = y ++ c :: (z' ++ w) := by
    rcases hrest with ⟨r, hr, hport⟩ | hrest
    · cases y with
      | nil =>
        rw [List.nil_append, List.cons.injEq] at hr
        rw [hr.1, endsAuthority_colon] at hc
        cases hc
      | cons d y =>
        rw [List.cons_append, List.cons.injEq] at hr
        rw [← hr.2] at hport
        exact splitPort_append (isDigit_of_endsAuthority hc) y (z' ++ w) hport
    · exact ⟨y, hrest⟩
  obtain ⟨y, rfl⟩ := hrest
  exact ⟨y ++ c :: z', by rw [List.append_assoc]; rfl⟩

theorem splitAuthority_user {scheme : List Char} {cs rest : List Char} {a : Authority}
    (h : splitAuthority scheme kind cs = .ok (a, rest))
    (hat : '@' ∉ cs.takeWhile (isInAuthority kind)) : a.user = [] := by
  obtain ⟨afterUser, afterHost, huser, -⟩ := (isAuthority_of_split h).parts
  rw [splitUser_of_no_at hat, Except.ok.injEq, Prod.mk.injEq] at huser
  exact huser.1.symm

/-! ## A scheme, a host and a port -/

theorem reverse_dropWhile_reverse {p : Char → Bool} {d : Char} (hd : p d = false) (l : List Char) :
    ((l ++ [d]).reverse.dropWhile p).reverse = l ++ [d] := by
  rw [List.reverse_append, List.reverse_singleton, List.singleton_append,
    List.dropWhile_cons_of_neg (by simp [hd]), List.reverse_cons, List.reverse_reverse]

/-- What stands in front of the first colon and in the host may be cleaned of blanks, but no more. -/
theorem clean_eq (s h : List Char) {w : List Char} (hw : ∀ c ∈ w, isTrimmed c = false)
    (hne : w ≠ []) : ∃ s' h', (∀ c ∈ h', c ∈ h) ∧
      clean (s ++ ':' :: ('/' :: '/' :: h ++ ':' :: w)) =
        s' ++ ':' :: ('/' :: '/' :: h' ++ ':' :: w) := by
  have hcolon : isTrimmed ':' = false := by decide
  unfold clean
  dsimp only
  rw [dropWhile_append_cons hcolon]
  obtain ⟨v, d, rfl⟩ : ∃ v d, w = v ++ [d] := ⟨_, _, (List.dropLast_concat_getLast hne).symm⟩
  have hd := hw d List.mem_concat_self
  have hfilter : (v ++ [d]).filter (fun c => c != '\t' && c != '\n' && c != '\r') = v ++ [d] := by
    rw [List.filter_eq_self]
    intro c hc
    have hnot := hw c hc
    rw [Bool.and_eq_true, Bool.and_eq_true, bne_iff_ne, bne_iff_ne, bne_iff_ne]
    refine ⟨⟨?_, ?_⟩, ?_⟩ <;> (rintro rfl; cases hnot)
  have hlist : s.dropWhile isTrimmed ++ ':' :: ('/' :: '/' :: h ++ ':' :: (v ++ [d])) =
      (s.dropWhile isTrimmed ++ ':' :: ('/' :: '/' :: h ++ ':' :: v)) ++ [d] := by simp
  rw [hlist, reverse_dropWhile_reverse hd, ← hlist]
  generalize hf : (fun c : Char => c != '\t' && c != '\n' && c != '\r') = f at hfilter ⊢
  have hslash : f '/' = true := by rw [← hf]; rfl
  have hsep : f ':' = true := by rw [← hf]; rfl
  refine ⟨(s.dropWhile isTrimmed).filter f, h.filter f, fun c hc => (List.mem_filter.1 hc).1, ?_⟩
  simp only [List.filter_append, List.filter_cons_of_pos hslash, List.filter_cons_of_pos hsep,
    List.cons_append] at hfilter ⊢
  rw [hfilter]

/-- What is left of a text behind the slashes in front of an authority. -/
inductive AfterSlashes (rest : List Char) : SchemeKind → List Char → Prop where
  | special : AfterSlashes rest .special (rest.dropWhile (isSlash .special))
  | other {r : List Char} (h : rest = '/' :: '/' :: r) : AfterSlashes rest .other r

theorem AfterSlashes.ne_file {rest r : List Char} (h : AfterSlashes rest kind r) : kind ≠ .file := by
  rintro rfl
  cases h

theorem AfterSlashes.append {x y r : List Char} (h : AfterSlashes (x ++ ':' :: y) kind r) :
    ∃ x', (∀ c ∈ x', c ∈ x) ∧ r = x' ++ ':' :: y := by
  cases h with
  | special =>
    exact ⟨_, fun c hc => (List.dropWhile_sublist _).subset hc, dropWhile_append_cons rfl x y⟩
  | other h =>
    rcases x with _ | ⟨a, _ | ⟨b, x⟩⟩
    · cases h
    · cases h
    · cases h
      exact ⟨x, fun c hc => List.mem_cons_of_mem _ (List.mem_cons_of_mem _ hc), rfl⟩

theorem effectivePort?_parseFile {scheme cs : List Char} {u : Url}
    (h : parseFile scheme cs = .ok u) : u.effectivePort? = usualPort? scheme := by
  unfold parseFile at h
  dsimp only at h
  split at h
  · split at h
    · split at h
      · cases h
        rfl
      · obtain ⟨host, -, h⟩ := Text.eq_ok_of_bind h
        cases h
        rfl
    · cases h
      rfl
  · cases h
    rfl

/-- How a URL with a host and a port is read. -/
structure IsParse (cs : List Char) (kind : SchemeKind) (u : Url) : Prop where
  parts : ∃ scheme rest r a rest', splitScheme? (clean cs) = some (scheme, rest) ∧
    AfterSlashes rest kind r ∧ splitAuthority scheme kind r = .ok (a, rest') ∧
      u = afterAuthority scheme kind (some a) rest'

theorem isParse_of_parse {s : String} {u : Url} (h : parse s = .ok u) (hhost : u.hostChars ≠ [])
    (hport : u.effectivePort? ≠ none) : ∃ kind, IsParse s.toList kind u := by
  unfold parse at h
  split at h
  · cases h
  · rename_i scheme rest hscheme
    split at h
    · rename_i hkind
      have hfile : scheme = "file".toList := by
        unfold SchemeKind.of at hkind
        split at hkind
        · assumption
        · split at hkind <;> cases hkind
      rw [effectivePort?_parseFile h, hfile] at hport
      exact absurd (by decide) hport
    · unfold parseOther at h
      split at h
      · obtain ⟨⟨a, rest'⟩, ha, h⟩ := Text.eq_ok_of_bind h
        cases h
        exact ⟨.other, ⟨scheme, _, _, a, rest', hscheme, .other rfl, ha, rfl⟩⟩
      · cases h
        exact absurd rfl hhost
      · cases h
        exact absurd rfl hhost
    · obtain ⟨⟨a, rest'⟩, ha, h⟩ := Text.eq_ok_of_bind h
      cases h
      exact ⟨.special, ⟨scheme, rest, _, a, rest', hscheme, .special, ha, rfl⟩⟩

/-- The scheme ends at the first colon. -/
theorem splitScheme?_eq_some {cs scheme rest : List Char}
    (h : splitScheme? cs = some (scheme, rest)) : ∃ x, x ≠ [] ∧ scheme = x.map Char.toLower ∧
      (∀ c ∈ x, (c.isAlphanum || c == '+' || c == '-' || c == '.') = true) ∧
        cs = x ++ ':' :: rest := by
  unfold splitScheme? at h
  split at h
  · cases h
  · rename_i c cs
    split at h
    · cases h
    · rename_i halpha
      split at h
      · rename_i x rest' hspan
        rw [List.span_eq_takeWhile_dropWhile, Prod.mk.injEq] at hspan
        cases h
        have happend := List.takeWhile_append_dropWhile
          (p := fun c => c.isAlphanum || c == '+' || c == '-' || c == '.') (l := c :: cs)
        rw [hspan.1, hspan.2] at happend
        refine ⟨x, ?_, rfl, ?_, happend.symm⟩
        · rintro rfl
          cases happend
          exact absurd (by decide) halpha
        · intro d hd
          rw [← hspan.1] at hd
          have hpos := List.mem_takeWhile_imp hd
          exact hpos
      · cases h

theorem IsParse.isLiteral {cs : List Char} {u : Url} (hu : IsParse cs kind u) :
    IsLiteral u.resourceChars := by
  obtain ⟨scheme, rest, r, a, rest', -, hr, -, rfl⟩ := hu.parts
  exact isLiteral_afterAuthority hr.ne_file scheme (some a) rest'

theorem isScheme_of_isParse {cs : List Char} {u : Url} (hu : IsParse cs kind u) :
    ∃ x, x ≠ [] ∧ u.scheme = x.map Char.toLower ∧
      ∀ c ∈ x, (c.isAlphanum || c == '+' || c == '-' || c == '.') = true := by
  obtain ⟨scheme, rest, r, a, rest', hscheme, -, -, rfl⟩ := hu.parts
  obtain ⟨x, hne, hlow, hx, -⟩ := splitScheme?_eq_some hscheme
  exact ⟨x, hne, hlow, hx⟩

theorem eq_or_of_append_eq {x r s t : List Char} (hx : ':' ∉ x)
    (h : x ++ ':' :: r = s ++ ':' :: t) : r = t ∨ ∃ y, r = y ++ ':' :: t := by
  rcases List.append_eq_append_iff.1 h with ⟨y, rfl, hy⟩ | ⟨y, rfl, hy⟩
  · cases y with
    | nil => 
      cases hy
      exact .inl rfl
    | cons d y =>
      cases hy
      exact .inr ⟨y, rfl⟩
  · cases y with
    | nil =>
      cases hy
      exact .inl rfl
    | cons d y =>
      cases hy
      exact absurd (List.mem_append_right _ List.mem_cons_self) hx

theorem isTrimmed_of_isKept {set : List Char} (hset : ' ' ∈ set) {c : Char}
    (h : Percent.IsKept set c) : isTrimmed c = false := by
  have hne : c ≠ ' ' := by
    rintro rfl
    exact Bool.eq_false_iff.1 h.2 (List.contains_iff_mem.2 hset)
  have hcontrol := h.1
  have hnat : c.toNat ≠ 0x20 := fun he => hne (by rw [← Char.ofNat_toNat c, he])
  simp only [Percent.isControl, isTrimmed, Bool.or_eq_false_iff, decide_eq_false_iff_not] at hcontrol ⊢
  omega

theorem IsLiteral.isTrimmed {cs : List Char} (h : IsLiteral cs) :
    ∀ c ∈ cs, isTrimmed c = false := by
  intro c hc
  rw [← List.takeWhile_append_dropWhile (p := isInPath) (l := cs)] at hc
  rcases List.mem_append.1 hc with hc | hc
  · exact isTrimmed_of_isKept (by decide) (h.path c hc)
  · exact isTrimmed_of_isKept (by decide) (h.tail c hc)

theorem isTrimmed_of_isDigit {c : Char} (h : c.isDigit = true) : isTrimmed c = false := by
  obtain ⟨k, hk, rfl⟩ := Text.exists_of_isDigit h
  clear h
  revert k
  decide

/-- An authority goes no further than up to the path. -/
theorem mem_of_mem_authority {front p : List Char} {c : Char} (hp : p = [] ∨ ∃ q, p = '/' :: q)
    (h : c ∈ (front ++ p).takeWhile (isInAuthority kind)) : c ∈ front := by
  rcases hp with rfl | ⟨q, rfl⟩
  · rw [List.append_nil] at h
    exact (List.takeWhile_sublist _).subset h
  · rw [takeWhile_append_cons rfl] at h
    exact (List.takeWhile_sublist _).subset h

theorem not_at_of_host {z h ds : List Char} (hz : ∀ c ∈ z, c ∈ '/' :: '/' :: h) (hat : '@' ∉ h)
    (hd : ∀ d ∈ ds, d.isDigit = true) : '@' ∉ z ++ ':' :: ds := by
  intro hmem
  rcases List.mem_append.1 hmem with hmem | hmem
  · simp only [List.mem_cons] at hz
    rcases hz _ hmem with hslash | hslash | hmem
    · cases hslash
    · cases hslash
    · exact hat hmem
  · rcases List.mem_cons.1 hmem with hcolon | hmem
    · cases hcolon
    · exact absurd (hd _ hmem) (by decide)

/-- What is put together of a scheme, a host without `@`, a port and a path is read without user
information, if nothing but that path is read behind the authority. -/
theorem user_of_isParse {s h ds p : List Char} {u : Url}
    (hu : IsParse (s ++ ':' :: ('/' :: '/' :: h ++ ':' :: (ds ++ p))) kind u) (hat : '@' ∉ h)
    (hd : ∀ d ∈ ds, d.isDigit = true) (hne : ds ≠ []) (hp : p = [] ∨ ∃ q, p = '/' :: q)
    (hres : u.resourceChars = if p.isEmpty then ['/'] else p) :
    ∃ a, u.authority = some a ∧ a.user = [] := by
  obtain ⟨scheme, rest, r, a, rest', hscheme, hr, ha, rfl⟩ := hu.parts
  refine ⟨a, rfl, ?_⟩
  have hliteral := isLiteral_afterAuthority hr.ne_file scheme (some a) rest'
  rw [hres] at hliteral
  have hclean : ∀ c ∈ ds ++ p, isTrimmed c = false := by
    intro c hc
    rcases List.mem_append.1 hc with hc | hc
    · exact isTrimmed_of_isDigit (hd c hc)
    · rw [if_neg (by simpa using List.ne_nil_of_mem hc)] at hliteral
      exact hliteral.isTrimmed c hc
  obtain ⟨s', h', hh, hcs⟩ := clean_eq s h hclean (by simp [hne])
  obtain ⟨x, -, -, hx, hcs'⟩ := splitScheme?_eq_some hscheme
  have hcolon : ':' ∉ x := by
    intro hmem
    exact absurd (hx ':' hmem) (by decide)
  rcases eq_or_of_append_eq hcolon (hcs'.symm.trans hcs) with rfl | ⟨y, rfl⟩
  · -- the scheme is the configured one, so what is read as the authority ends at the path
    obtain ⟨z, hz, rfl⟩ := hr.append (x := '/' :: '/' :: h')
    have hfront := not_at_of_host hz (fun hmem => hat (hh _ hmem)) hd
    have hsplit : z ++ ':' :: (ds ++ p) = (z ++ ':' :: ds) ++ p := by simp
    rw [hsplit] at ha
    exact splitAuthority_user ha fun hmem => hfront (mem_of_mem_authority hp hmem)
  · -- the scheme ends before the configured one does, and the authority with the configured one
    obtain ⟨z, -, rfl⟩ := hr.append
    have hsplit : z ++ ':' :: ('/' :: '/' :: h' ++ ':' :: (ds ++ p)) =
        (z ++ ':' :: '/' :: '/' :: h') ++ (':' :: ds ++ p) := by simp
    rw [hsplit] at ha
    obtain ⟨y, rfl⟩ := splitAuthority_append ha ⟨'/', by simp, rfl⟩
    rw [← List.append_assoc] at hres
    exact absurd hres (resourceChars_ne hr.ne_file scheme (some a) y hd hp)

end EndpointClient.Url
