import EndpointClient.Proofs.Url.Authority
import EndpointClient.Proofs.Url.PlainName

/-!
# EndpointClient.Proofs.Url.Plain

URLs that are read as they stand: a plain name, a port, and a path of letters, digits and a few
signs that mean nothing in a URL.

* `splitAuthority_plain`: the name is the host, there is no user information, and the port is kept
  unless it is the usual one.
* `flatMap_splitOnP`: what is cut into segments is put together again. `resourceChars_plain`: so the
  path of the URL is the one that is written, or `/`.
* `parse_plain` puts them together.
-/

namespace EndpointClient.Url

variable {scheme host path : List Char} {n : Nat}

/-- A letter, a digit, or one of the signs of a plain path. There is no point among them, so no
segment is a dot segment. -/
def isPathSign (c : Char) : Bool := c.isAlphanum || "-_~/".toList.contains c

/-- No path, or a slash and the signs of a path behind it. -/
def IsPlainPath (cs : List Char) : Prop :=
  cs = [] ∨ ∃ q, cs = '/' :: q ∧ ∀ c ∈ q, isPathSign c = true

theorem of_isPathSign {P : Char → Prop}
    (h : ∀ n < 128, isPathSign (Char.ofNat n) = true → P (Char.ofNat n)) {c : Char}
    (hc : isPathSign c = true) : P c := by
  have hascii : c.toNat < 0x80 := by
    rw [isPathSign, Bool.or_eq_true, List.contains_iff_mem] at hc
    rcases hc with hc | hc
    · exact Text.ascii_of_isAlphanum hc
    · have hsigns : ("-_~/".toList.all fun c => c.toNat < 0x80) = true := rfl
      exact of_decide_eq_true (List.all_eq_true.1 hsigns c hc)
  exact Text.of_ascii (P := fun c => isPathSign c = true → P c) h hascii hc

theorem IsPlainPath.isPathSign (h : IsPlainPath path) : ∀ c ∈ path, isPathSign c = true := by
  rcases h with rfl | ⟨q, rfl, hq⟩
  · simp
  · intro c hc
    rcases List.mem_cons.1 hc with rfl | hc
    · rfl
    · exact hq c hc

/-! ## The path -/

theorem flatMap_splitOnP {p : Char → Bool} {sep : Char} {cs : List Char}
    (h : ∀ c ∈ cs, p c = true → c = sep) : (cs.splitOnP p).flatMap (sep :: ·) = sep :: cs := by
  induction cs with
  | nil => rfl
  | cons c cs ih =>
    have hrest := ih fun d hd => h d (List.mem_cons_of_mem c hd)
    rw [List.splitOnP_cons_eq_if_modifyHead]
    split
    · rename_i hc
      rw [List.flatMap_cons, hrest, h c List.mem_cons_self hc]
      rfl
    · cases hsplit : cs.splitOnP p with
      | nil => exact absurd hsplit (List.splitOnP_ne_nil p cs)
      | cons f front =>
        rw [hsplit, List.flatMap_cons, List.cons_append, List.cons.injEq] at hrest
        rw [List.modifyHead_cons, List.flatMap_cons, List.cons_append, List.cons_append, hrest.2]

theorem isDown_of_isPathSign {s : List Char} (h : ∀ c ∈ s, isPathSign c = true) : IsDown s := by
  have hlow : ∀ c ∈ s.map Char.toLower, c ≠ '.' ∧ c ≠ '%' := by
    intro c hc
    obtain ⟨d, hd, rfl⟩ := List.mem_map.1 hc
    exact of_isPathSign (P := fun c => c.toLower ≠ '.' ∧ c.toLower ≠ '%') (by decide +kernel)
      (h d hd)
  unfold IsDown segmentStep
  split
  all_goals first
    | rfl
    | rename_i heq
      rw [heq] at hlow
      exact absurd hlow (by simp)

theorem pathOf_plain {q : List Char} (hq : ∀ c ∈ q, isPathSign c = true) :
    (pathOf .special q).flatMap ('/' :: ·) = '/' :: q := by
  have hslash : ∀ c ∈ q, isSlash .special c = true → c = '/' := by
    intro c hc
    exact of_isPathSign (P := fun c => isSlash .special c = true → c = '/') (by decide +kernel)
      (hq c hc)
  have hjoin := flatMap_splitOnP hslash
  have hsegment : ∀ s ∈ q.splitOnP (isSlash .special), ∀ c ∈ s, isPathSign c = true := by
    intro s hs c hc
    have hmem := List.mem_flatMap.2 ⟨s, hs, List.mem_cons_of_mem '/' hc⟩
    rw [hjoin] at hmem
    rcases List.mem_cons.1 hmem with rfl | hmem
    · rfl
    · exact hq c hmem
  have hencode : (q.splitOnP (isSlash .special)).map (Percent.encode Percent.pathSet) =
      q.splitOnP (isSlash .special) := by
    rw [List.map_congr_left fun s hs => Percent.encode_of_kept fun c hc =>
      of_isPathSign (by decide +kernel) (hsegment s hs c hc), List.map_id']
  rw [pathOf_eq (by decide), hencode,
    walk_of_isDown (by decide) fun s hs => isDown_of_isPathSign (hsegment s hs), List.append_nil,
    List.reverse_reverse, hjoin]

theorem resourceChars_plain (a : Option Authority) (h : IsPlainPath path) :
    (afterAuthority scheme .special a path).resourceChars =
      if path.isEmpty then ['/'] else path := by
  have hin : ∀ c ∈ path, isInPath c = true :=
    fun c hc => of_isPathSign (P := fun c => isInPath c = true) (by decide +kernel)
      (h.isPathSign c hc)
  rw [resourceChars_afterAuthority, List.takeWhile_eq_self_iff.2 hin,
    List.dropWhile_eq_nil_iff.2 hin]
  rcases h with rfl | ⟨q, rfl, hq⟩
  · rfl
  · change (pathOf .special q).flatMap ('/' :: ·) ++ [] = '/' :: q
    rw [List.append_nil, pathOf_plain hq]

/-! ## The authority -/

theorem splitHost_plain (h : ∀ c ∈ host, Host.isPlainSign c = true) (rest : List Char) :
    splitHost .special false (host ++ ':' :: rest) = (host, ':' :: rest) := by
  induction host with
  | nil => rfl
  | cons c host ih =>
    obtain ⟨hcolon, hend, hopen, hclose⟩ := Host.of_isPlainSign
      (P := fun c => (c == ':') = false ∧ endsAuthority .special c = false ∧ (c == '[') = false ∧
        (c == ']') = false) (by decide +kernel) (h c List.mem_cons_self)
    rw [List.cons_append, splitHost, hcolon, hend, hopen, hclose]
    simp [ih fun d hd => h d (List.mem_cons_of_mem c hd)]

theorem splitPort_natText (hn : n ≤ 65535) (hpath : IsPlainPath path) :
    splitPort scheme (Text.natText n ++ path) =
      .ok (if usualPort? scheme = some n then none else some n, path) := by
  have htake : (Text.natText n ++ path).takeWhile Char.isDigit = Text.natText n := by
    rw [List.takeWhile_append_of_pos fun c hc => Text.isDigit_of_mem_natText hc]
    rcases hpath with rfl | ⟨q, rfl, -⟩
    · exact List.append_nil _
    · exact List.append_nil _
  have hends :
      path.head?.any (fun c => !(c == '/' || c == '\\' || c == '?' || c == '#')) = false := by
    rcases hpath with rfl | ⟨q, rfl, -⟩
    · rfl
    · rfl
  have hempty : (Text.natText n).isEmpty = false := by
    simpa using Text.natText_ne_nil n
  unfold splitPort
  simp only [htake, Text.digitsNumber_natText, List.drop_left, hends, hempty, Bool.false_or,
    decide_eq_true_eq, Bool.false_eq_true, if_false]
  exact if_neg (by omega)

theorem splitAuthority_plain (hhost : Host.IsPlain host) (hn : n ≤ 65535)
    (hpath : IsPlainPath path) :
    splitAuthority scheme .special (host ++ ':' :: (Text.natText n ++ path)) =
      .ok (⟨[], host, if usualPort? scheme = some n then none else some n⟩, path) := by
  have hat : '@' ∉ host ++ ':' :: (Text.natText n ++ path) := by
    intro hmem
    simp only [List.mem_append, List.mem_cons] at hmem
    rcases hmem with hmem | hmem | hmem | hmem
    · exact absurd (hhost.isPlainSign _ hmem) (by decide)
    · exact absurd hmem (by decide)
    · exact absurd (Text.isDigit_of_mem_natText hmem) (by decide)
    · exact absurd (hpath.isPathSign _ hmem) (by decide)
  have huser : splitUser .special _ = .ok ([], _) :=
    splitUser_of_no_at fun hmem => hat ((List.takeWhile_sublist _).subset hmem)
  have hempty : host.isEmpty = false := by
    obtain ⟨c, r, rfl, -⟩ := hhost.start
    rfl
  have hsplit := splitHost_plain hhost.isPlainSign (Text.natText n ++ path)
  have hname := Host.parse_of_plain hhost
  have hport : splitPort scheme (Text.natText n ++ path) = _ := splitPort_natText hn hpath
  simp [splitAuthority, bind, Except.bind, pure, Except.pure, huser, hsplit, hname, hport, hempty,
    SchemeKind.isSpecial, Host.chars]

/-! ## The whole -/

theorem clean_plain {cs : List Char} (h : ∀ c ∈ cs, isTrimmed c = false) : clean cs = cs := by
  have hself : ∀ l : List Char, (∀ c ∈ l, isTrimmed c = false) → l.dropWhile isTrimmed = l := by
    intro l hl
    exact List.dropWhile_eq_self_iff.2 fun hpos => by simp [hl _ (List.getElem_mem hpos)]
  unfold clean
  dsimp only
  rw [hself cs h, hself _ fun c hc => h c (List.mem_reverse.1 hc), List.reverse_reverse,
    List.filter_eq_self]
  intro c hc
  have hnot := h c hc
  rw [Bool.and_eq_true, Bool.and_eq_true, bne_iff_ne, bne_iff_ne, bne_iff_ne]
  refine ⟨⟨?_, ?_⟩, ?_⟩ <;> (rintro rfl; cases hnot)

/-- The two schemes that endpoints are spoken to with. -/
def IsWeb (scheme : List Char) : Prop := scheme = "http".toList ∨ scheme = "https".toList

theorem IsWeb.kind (h : IsWeb scheme) : SchemeKind.of scheme = .special := by
  rcases h with rfl | rfl <;> decide

theorem IsWeb.splitScheme? (h : IsWeb scheme) (rest : List Char) :
    splitScheme? (scheme ++ ':' :: rest) = some (scheme, rest) := by
  rcases h with rfl | rfl <;> rfl

theorem IsWeb.isTrimmed (h : IsWeb scheme) : ∀ c ∈ scheme, isTrimmed c = false := by
  have hany : scheme.any Url.isTrimmed = false := by rcases h with rfl | rfl <;> rfl
  simpa using hany

/-- A plain URL has the parts that it is put together of. -/
theorem parse_plain (hs : IsWeb scheme) (hhost : Host.IsPlain host) (hn : n ≤ 65535)
    (hpath : IsPlainPath path) :
    parse (String.ofList (scheme ++ ':' :: ('/' :: '/' :: host ++
      ':' :: (Text.natText n ++ path)))) =
    .ok (afterAuthority scheme .special
      (some ⟨[], host, if usualPort? scheme = some n then none else some n⟩) path) := by
  have htrim : ∀ c ∈ scheme ++ ':' :: ('/' :: '/' :: host ++ ':' :: (Text.natText n ++ path)),
      isTrimmed c = false := by
    intro c hc
    simp only [List.mem_append, List.mem_cons] at hc
    rcases hc with hc | rfl | (rfl | rfl | hc) | rfl | hc | hc
    · exact hs.isTrimmed c hc
    · decide
    · decide
    · decide
    · exact Host.of_isPlainSign (P := fun c => isTrimmed c = false) (by decide +kernel)
        (hhost.isPlainSign c hc)
    · decide
    · exact isTrimmed_of_isDigit (Text.isDigit_of_mem_natText hc)
    · exact of_isPathSign (P := fun c => isTrimmed c = false) (by decide +kernel)
        (hpath.isPathSign c hc)
  have hslashes : ('/' :: '/' :: host ++ ':' :: (Text.natText n ++ path)).dropWhile
      (isSlash .special) = host ++ ':' :: (Text.natText n ++ path) := by
    obtain ⟨c, r, rfl, -⟩ := hhost.start
    have hc := Host.of_isPlainSign (P := fun c => isSlash .special c = false) (by decide +kernel)
      (hhost.isPlainSign c List.mem_cons_self)
    change (c :: (r ++ ':' :: (Text.natText n ++ path))).dropWhile (isSlash .special) = _
    exact List.dropWhile_cons_of_neg (by simp [hc])
  unfold parse
  rw [String.toList_ofList, clean_plain htrim, hs.splitScheme?]
  dsimp only
  rw [hs.kind]
  dsimp only
  rw [hslashes, splitAuthority_plain hhost hn hpath]
  rfl

end EndpointClient.Url
