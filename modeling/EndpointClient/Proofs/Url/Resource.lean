import EndpointClient.Proofs.Url.Segments
import Mathlib.Data.List.TakeDrop
import Mathlib.Data.List.TakeWhile

/-!
# EndpointClient.Proofs.Url.Resource

What is read behind an authority: a path, a query and a fragment.

* `resourceChars_afterAuthority`: the text of these is the one of the path, and the one of the rest.
* `resourceChars_ne`: it is never just the path behind a port, if the port is still to be read.
* `isLiteral_afterAuthority`: it is literal, all of it would be read as it is.
-/

namespace EndpointClient.Url

variable {kind : SchemeKind} {s : List Char} {ss : List (List Char)}

/-! ## Queries and fragments -/

/-- A character that does not end a path. -/
def isInPath (c : Char) : Bool := c != '?' && c != '#'

theorem isInPath_eq_false {c : Char} : isInPath c = false ↔ c = '?' ∨ c = '#' := by
  rw [isInPath, Bool.and_eq_false_iff, bne_eq_false_iff_eq, bne_eq_false_iff_eq]

theorem splitPath_eq (cs : List Char) :
    splitPath cs = (cs.takeWhile isInPath, cs.dropWhile isInPath) :=
  List.span_eq_takeWhile_dropWhile _ cs

/-- A query and a fragment as they are written behind a path. -/
def tailChars (kind : SchemeKind) (cs : List Char) : List Char :=
  (readTail kind cs).1.elim [] ('?' :: ·) ++ (readTail kind cs).2.elim [] ('#' :: ·)

theorem resourceChars_afterAuthority (scheme : List Char) (kind : SchemeKind)
    (a : Option Authority) (cs : List Char) : (afterAuthority scheme kind a cs).resourceChars =
      (pathAfterAuthority kind (cs.takeWhile isInPath)).flatMap ('/' :: ·) ++
        tailChars kind (cs.dropWhile isInPath) := by
  unfold afterAuthority
  rw [splitPath_eq]
  exact List.append_assoc ..

theorem takeWhile_tailChars (kind : SchemeKind) (cs : List Char) :
    (tailChars kind cs).takeWhile isInPath = [] := by
  unfold tailChars readTail
  dsimp only
  split
  · rfl
  · split <;> rfl

theorem dropWhile_eq_cons {p : Char → Bool} {q cs : List Char} {c : Char}
    (h : q.dropWhile p = c :: cs) : p c = false := by
  have hhead := List.head?_dropWhile_not p q
  rw [h] at hhead
  exact hhead

/-- A query goes up to the fragment. -/
theorem tailChars_query (kind : SchemeKind) (r : List Char) : tailChars kind ('?' :: r) =
    '?' :: Percent.encode (if kind.isSpecial then Percent.specialQuerySet else Percent.querySet)
      (r.takeWhile (· != '#')) ++ tailChars kind (r.dropWhile (· != '#')) := by
  unfold tailChars readTail
  simp only [List.span_eq_takeWhile_dropWhile]
  cases hdrop : r.dropWhile (· != '#') with
  | nil => rfl
  | cons c f =>
    have hc : c = '#' := by simpa using dropWhile_eq_cons hdrop
    subst hc
    rfl

theorem tail_cases {cs : List Char} (h : cs.takeWhile isInPath = []) :
    cs = [] ∨ (∃ f, cs = '#' :: f) ∨ ∃ r, cs = '?' :: r := by
  cases cs with
  | nil => exact .inl rfl
  | cons c cs =>
    right
    cases hc : isInPath c with
    | true =>
      rw [List.takeWhile_cons_of_pos hc] at h
      cases h
    | false =>
      rcases isInPath_eq_false.1 hc with rfl | rfl
      · exact .inr ⟨cs, rfl⟩
      · exact .inl ⟨cs, rfl⟩

theorem length_le_tailChars (kind : SchemeKind) {cs : List Char} (h : cs.takeWhile isInPath = []) :
    cs.length ≤ (tailChars kind cs).length := by
  have hfragment : ∀ {cs : List Char}, cs = [] ∨ (∃ f, cs = '#' :: f) →
      cs.length ≤ (tailChars kind cs).length := by
    rintro cs (rfl | ⟨f, rfl⟩)
    · exact Nat.zero_le _
    · exact Nat.succ_le_succ (Percent.length_le_encode _ f)
  rcases tail_cases h with hnil | hf | ⟨r, rfl⟩
  · exact hfragment (.inl hnil)
  · exact hfragment (.inr hf)
  · have hrest : (r.dropWhile (· != '#')).length ≤
        (tailChars kind (r.dropWhile (· != '#'))).length := by
      refine hfragment ?_
      cases hdrop : r.dropWhile (· != '#') with
      | nil => exact .inl rfl
      | cons c f =>
        have hc : c = '#' := by simpa using dropWhile_eq_cons hdrop
        exact .inr ⟨f, by rw [hc]⟩
    have hquery := Percent.length_le_encode
      (if kind.isSpecial then Percent.specialQuerySet else Percent.querySet) (r.takeWhile (· != '#'))
    have hlen := congrArg List.length (List.takeWhile_append_dropWhile (p := (· != '#')) (l := r))
    rw [List.length_append] at hlen
    rw [tailChars_query, List.length_append, List.length_cons, List.length_cons]
    omega

/-! ## A path behind a port -/

theorem plain_of_isDigit (kind : SchemeKind) {c : Char} (h : c.isDigit = true) :
    isSlash kind c = false ∧ isInPath c = true := by
  obtain ⟨k, hk, rfl⟩ := Text.exists_of_isDigit h
  clear h
  revert k
  cases kind <;> decide

theorem plain_of_mem_port (kind : SchemeKind) {c : Char} {ds : List Char}
    (hd : ∀ d ∈ ds, d.isDigit = true) (h : c ∈ ':' :: ds) :
    isSlash kind c = false ∧ isInPath c = true := by
  rcases List.mem_cons.1 h with rfl | h
  · cases kind <;> decide
  · exact plain_of_isDigit kind (hd c h)

theorem isInPath_flatMap (h : ∀ s ∈ ss, IsSettled kind s) :
    ∀ c ∈ ss.flatMap ('/' :: ·), isInPath c = true := by
  intro c hc
  obtain ⟨s, hs, hc⟩ := List.mem_flatMap.1 hc
  rcases List.mem_cons.1 hc with rfl | hc
  · rfl
  · have hkept := ((h s hs).kept c hc).2
    rw [← Bool.not_eq_false, isInPath_eq_false]
    rintro (rfl | rfl)
    · exact absurd hkept (by decide)
    · exact absurd hkept (by decide)

theorem length_dropWhile_append {p : Char → Bool} {y w : List Char} (h : ∃ c ∈ y, p c = false) :
    w.length < ((y ++ w).dropWhile p).length := by
  induction y with
  | nil =>
    obtain ⟨c, hc, -⟩ := h
    cases hc
  | cons d y ih =>
    rw [List.cons_append, List.dropWhile_cons]
    split
    · rename_i hd
      obtain ⟨c, hc, hpc⟩ := h
      rcases List.mem_cons.1 hc with rfl | hc
      · rw [hd] at hpc
        cases hpc
      · exact ih ⟨c, hc, hpc⟩
    · rw [List.length_cons, List.length_append]
      omega

theorem takeWhile_dropWhile_self (p : Char → Bool) (cs : List Char) :
    (cs.dropWhile p).takeWhile p = [] := by
  cases hdrop : cs.dropWhile p with
  | nil => rfl
  | cons c r => rw [List.takeWhile_cons, dropWhile_eq_cons hdrop]; rfl

/-- A slash in front of a path is dropped, all else is part of its first segment. -/
theorem pathAfterAuthority_append (kind : SchemeKind) (y ds : List Char) :
    ∃ z, ∀ w, pathAfterAuthority kind (y ++ ':' :: ds ++ w) = pathOf kind (z ++ ':' :: ds ++ w) := by
  cases y with
  | nil => exact ⟨[], fun w => if_neg (by cases kind <;> decide)⟩
  | cons c y =>
    by_cases hs : isSlash kind c = true
    · exact ⟨y, fun w => if_pos hs⟩
    · exact ⟨c :: y, fun w => if_neg hs⟩

/-- If a port and a path are still to be read behind an authority, the URL has more than that path
there. -/
theorem resourceChars_ne (hk : kind ≠ .file) (scheme : List Char) (a : Option Authority)
    (y : List Char) {ds : List Char} (hd : ∀ d ∈ ds, d.isDigit = true) {p : List Char}
    (hp : p = [] ∨ ∃ q, p = '/' :: q) :
    (afterAuthority scheme kind a (y ++ ':' :: ds ++ p)).resourceChars ≠
      if p.isEmpty then ['/'] else p := by
  have hplain : ∀ d ∈ ':' :: ds, isSlash kind d = false ∧ isInPath d = true :=
    fun d h => plain_of_mem_port kind hd h
  have hslash : ∀ d ∈ ':' :: ds, isSlash kind d = false := fun d h => (hplain d h).1
  have hcolon : ':' ∈ ':' :: ds := List.mem_cons_self
  intro h
  rw [resourceChars_afterAuthority] at h
  by_cases hy : ∀ d ∈ y, isInPath d = true
  · have hfront : ∀ d ∈ y ++ ':' :: ds, isInPath d = true := by
      intro d hmem
      rcases List.mem_append.1 hmem with hmem | hmem
      · exact hy d hmem
      · exact (hplain d hmem).2
    rw [List.takeWhile_append_of_pos hfront, List.dropWhile_append_of_pos hfront] at h
    obtain ⟨z, hz⟩ := pathAfterAuthority_append kind y ds
    rw [hz] at h
    rcases hp with rfl | ⟨q, rfl⟩
    · have hmem := colon_mem_pathOf_append hk hslash hcolon z
      rw [List.takeWhile_nil, List.append_nil] at h
      have hmem := List.mem_append_left (tailChars kind ([].dropWhile isInPath)) hmem
      rw [h] at hmem
      exact absurd hmem (by decide)
    · refine flatMap_pathOf_append_ne hk hslash hcolon z (q.takeWhile isInPath) ?_
      have htake := congrArg (List.takeWhile isInPath) h
      rwa [List.takeWhile_append_of_pos (isInPath_flatMap fun s => isSettled_pathOf hk),
        takeWhile_tailChars,
        List.append_nil] at htake
  · -- the path ends in front of the port, and all from there on is longer than what is expected
    have hex : ∃ d ∈ y, isInPath d = false := by simpa using hy
    rw [List.append_assoc] at h
    have hport : (':' :: ds ++ p).length = ds.length + 1 + p.length := by
      rw [List.length_append, List.length_cons]
    have hdrop := length_dropWhile_append (w := ':' :: ds ++ p) hex
    have htail := length_le_tailChars kind
      (takeWhile_dropWhile_self isInPath (y ++ (':' :: ds ++ p)))
    have hlen := congrArg List.length h
    rw [List.length_append] at hlen
    split at hlen
    · rw [List.length_singleton] at hlen
      omega
    · omega

/-! ## What a URL keeps -/

/-- The characters written out in every part behind an authority. -/
def commonSet : List Char := " \"<>".toList

/-- A text that a URL has behind its authority the way it is written. -/
structure IsLiteral (cs : List Char) : Prop where
  path : ∀ c ∈ cs.takeWhile isInPath, Percent.IsKept Percent.pathSet c
  segments : ∀ s ∈ (cs.takeWhile isInPath).splitOn '/', IsDown s
  tail : ∀ c ∈ cs.dropWhile isInPath, Percent.IsKept commonSet c

theorem isKept_encode {set cs : List Char} (hset : ∀ c ∈ commonSet, c ∈ set) {c : Char}
    (hc : c ∈ Percent.encode set cs) : Percent.IsKept commonSet c := by
  rcases Percent.mem_encode hc with ⟨-, hcontrol, hnot⟩ | hsign
  · refine ⟨hcontrol, ?_⟩
    rw [← Bool.not_eq_true, List.contains_iff_mem] at hnot ⊢
    exact fun hmem => hnot (hset c hmem)
  · have hall : ∀ d ∈ Percent.signs, Percent.IsKept commonSet d :=
      List.all_iff_forall_prop.1 (by decide)
    exact hall c hsign

theorem isKept_tailChars (kind : SchemeKind) (cs : List Char) :
    ∀ c ∈ tailChars kind cs, Percent.IsKept commonSet c := by
  have hpart {sign : Char} {set f : List Char} (hsign : Percent.IsKept commonSet sign)
      (hset : ∀ c ∈ commonSet, c ∈ set) :
      ∀ c ∈ sign :: Percent.encode set f, Percent.IsKept commonSet c := by
    intro c hc
    rcases List.mem_cons.1 hc with rfl | hc
    · exact hsign
    · exact isKept_encode hset hc
  have hfragment : ∀ c ∈ commonSet, c ∈ Percent.fragmentSet :=
    List.all_iff_forall_prop.1 (by decide)
  have hquery : ∀ c ∈ commonSet,
      c ∈ (if kind.isSpecial then Percent.specialQuerySet else Percent.querySet) := by
    split <;> exact List.all_iff_forall_prop.1 (by decide)
  intro c hc
  unfold tailChars readTail at hc
  generalize (if kind.isSpecial then Percent.specialQuerySet else Percent.querySet) = querySet
    at hquery hc
  dsimp only at hc
  split at hc
  · rcases List.mem_append.1 hc with hc | hc
    · exact hpart (by decide) hquery c hc
    · split at hc
      · exact hpart (by decide) hfragment c hc
      · cases hc
  · split at hc
    · exact hpart (by decide) hfragment c hc
    · cases hc

theorem isSettled_pathAfterAuthority (hk : kind ≠ .file) {cs : List Char}
    (h : s ∈ pathAfterAuthority kind cs) : IsSettled kind s := by
  unfold pathAfterAuthority at h
  split at h
  · split at h
    · cases List.mem_singleton.1 h
      exact ⟨rfl, by simp, by simp⟩
    · cases h
  · split at h
    · exact isSettled_pathOf hk h
    · exact isSettled_pathOf hk h

theorem isLiteral_afterAuthority (hk : kind ≠ .file) (scheme : List Char) (a : Option Authority)
    (cs : List Char) : IsLiteral (afterAuthority scheme kind a cs).resourceChars := by
  rw [resourceChars_afterAuthority]
  have hsettled : ∀ s ∈ pathAfterAuthority kind (cs.takeWhile isInPath), IsSettled kind s :=
    fun s hs => isSettled_pathAfterAuthority hk hs
  generalize pathAfterAuthority kind (cs.takeWhile isInPath) = ss at hsettled
  generalize htail : tailChars kind (cs.dropWhile isInPath) = tail
  have htake : tail.takeWhile isInPath = [] := by rw [← htail, takeWhile_tailChars]
  have hdrop := List.takeWhile_append_dropWhile (p := isInPath) (l := tail)
  rw [htake, List.nil_append] at hdrop
  have hin := isInPath_flatMap hsettled
  constructor
  · intro c hc
    rw [List.takeWhile_append_of_pos hin, htake, List.append_nil] at hc
    obtain ⟨s, hs, hc⟩ := List.mem_flatMap.1 hc
    rcases List.mem_cons.1 hc with rfl | hc
    · decide
    · exact (hsettled s hs).kept c hc
  · intro s hs
    rw [List.takeWhile_append_of_pos hin, htake, List.append_nil, List.splitOn_eq_splitOnP] at hs
    have hparts : ∀ t ∈ ss, ∀ c ∈ t, (c == '/') = false := by
      intro t ht c hc
      rw [beq_eq_false_iff_ne]
      rintro rfl
      have hslash := (hsettled t ht).notSlash '/' hc
      rw [isSlash_slash] at hslash
      cases hslash
    have hsplit := splitOnP_flatMap (p := (· == '/')) (s := []) (beq_self_eq_true '/') (by simp)
      hparts
    rw [List.nil_append] at hsplit
    rw [hsplit] at hs
    rcases List.mem_cons.1 hs with rfl | hs
    · rfl
    · exact (hsettled s hs).down
  · intro c hc
    rw [List.dropWhile_append_of_pos hin, hdrop, ← htail] at hc
    exact isKept_tailChars kind _ c hc

end EndpointClient.Url
