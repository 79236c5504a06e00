import EndpointClient.Proofs.Url.Idna
import EndpointClient.Url.Host

/-!
# EndpointClient.Proofs.Url.Host

The texts of hosts.

* `IpAddress.Stray.parseGroups?`: groups have no characters but those of groups.
* `Host.not_at_of_parse`: so nothing that holds an `@` is read as a host.
* `Host.isText_of_parse`: the text of a host is a name without a denied character, or groups in
  brackets, and so is each text that is the same in lower case (`Host.IsText.of_lowered`).
-/

namespace EndpointClient

namespace IpAddress

/-- A character that is in no text of an address. -/
structure Stray (c : Char) : Prop where
  notHex : isHexDigit c = false
  notColon : c ≠ ':'
  notPoint : c ≠ '.'

variable {x : Char} {cs rest : List Char}

theorem mem_dropWhile {p : Char → Bool} (hp : p x = false) (hx : x ∈ cs) : x ∈ cs.dropWhile p := by
  rw [← List.takeWhile_append_dropWhile (p := p) (l := cs), List.mem_append] at hx
  refine hx.resolve_left fun htake => ?_
  have hall := List.all_takeWhile (p := p) (l := cs)
  rw [List.all_eq_true] at hall
  rw [hall x htake] at hp
  cases hp

theorem Stray.notDigit (h : Stray x) : x.isDigit = false := by
  have hnot := h.notHex
  unfold isHexDigit at hnot
  simp only [Bool.or_eq_false_iff] at hnot
  exact hnot.1.1

theorem Stray.readOctet {b : UInt8} (h : Stray x) (hr : readOctet cs = some (b, rest))
    (hx : x ∈ cs) : x ∈ rest := by
  unfold IpAddress.readOctet at hr
  dsimp only at hr
  split at hr
  · cases hr
  · cases hr
    exact mem_dropWhile h.notDigit hx

theorem Stray.readDotOctet {b : UInt8} (h : Stray x) (hr : readDotOctet cs = some (b, rest))
    (hx : x ∈ cs) : x ∈ rest := by
  unfold IpAddress.readDotOctet at hr
  split at hr
  · exact h.readOctet hr ((List.mem_cons.1 hx).resolve_left h.notPoint)
  · cases hr

theorem Stray.readQuad {q : Quad} (h : Stray x) (hr : readQuad cs = some (q, rest))
    (hx : x ∈ cs) : x ∈ rest := by
  obtain ⟨⟨a, cs₁⟩, ha, hr⟩ := Option.bind_eq_some_iff.1 hr
  obtain ⟨⟨b, cs₂⟩, hb, hr⟩ := Option.bind_eq_some_iff.1 hr
  obtain ⟨⟨c, cs₃⟩, hc, hr⟩ := Option.bind_eq_some_iff.1 hr
  obtain ⟨⟨d, cs₄⟩, hd, hr⟩ := Option.bind_eq_some_iff.1 hr
  cases hr
  exact h.readDotOctet hd (h.readDotOctet hc (h.readDotOctet hb (h.readOctet ha hx)))

theorem Stray.readGroup {g : UInt16} (h : Stray x) (hr : readGroup cs = some (g, rest))
    (hx : x ∈ cs) : x ∈ rest := by
  unfold IpAddress.readGroup at hr
  dsimp only at hr
  split at hr
  · cases hr
  · cases hr
    exact mem_dropWhile h.notHex hx

theorem Stray.readGroups (h : Stray x) (n : Nat) (first : Bool) (hx : x ∈ cs) :
    x ∈ (readGroups n first cs).2.2 := by
  induction n generalizing first cs with
  | zero => exact hx
  | succ n ih =>
    unfold IpAddress.readGroups
    extract_lets body?
    have hbody : ∀ body, body? = some body → x ∈ body := by
      intro body hb
      simp only [body?] at hb
      split at hb
      · cases hb
        exact hx
      · split at hb
        · cases hb
          exact (List.mem_cons.1 hx).resolve_left h.notColon
        · cases hb
    clear_value body?
    split
    · exact hx
    · rename_i body
      have hx := hbody _ rfl
      split
      · rename_i hquad
        split at hquad
        · cases hquad
        · exact h.readQuad hquad hx
      · split
        · assumption
        · rename_i hgroup
          exact ih false (h.readGroup hgroup hx)

theorem Stray.parseGroups? (h : Stray x) (hx : x ∈ cs) : parseGroups? cs = none := by
  have hrest := h.readGroups 8 true hx
  unfold IpAddress.parseGroups?
  split
  rename_i front dotted rest hread
  rw [hread] at hrest
  split
  · rw [if_neg]
    simpa using List.ne_nil_of_mem hrest
  · split
    · rfl
    · split
      · rename_i rest'
        dsimp only at hrest
        have hrest' : x ∈ rest' := by
          simpa [h.notColon] using hrest
        have hback := h.readGroups (7 - front.length) true hrest'
        split
        rename_i hread'
        rw [hread'] at hback
        rw [if_neg]
        simpa using List.ne_nil_of_mem hback
      · rfl

theorem stray_at : Stray '@' := ⟨by decide, by decide, by decide⟩

theorem isHexDigit_digitChar : ∀ n < 16, isHexDigit n.digitChar = true := by decide

theorem isHexDigit_of_mem_toDigits {c : Char} {n : Nat} (h : c ∈ Nat.toDigits 16 n) :
    isHexDigit c = true := by
  induction n using Nat.strongRecOn with
  | ind n ih =>
    by_cases hn : n < 16
    · rw [Nat.toDigits_of_lt_base hn] at h
      cases List.mem_singleton.1 h
      exact isHexDigit_digitChar n hn
    · rw [Nat.toDigits_of_base_le (by omega) (by omega)] at h
      rcases List.mem_append.1 h with hfront | hlast
      · exact ih (n / 16) (by omega) hfront
      · cases List.mem_singleton.1 hlast
        exact isHexDigit_digitChar (n % 16) (Nat.mod_lt n (by omega))

theorem isHexDigit_toLower (c : Char) : isHexDigit c.toLower = isHexDigit c := by
  by_cases h : c.isUpper = true
  · obtain ⟨k, hk, rfl⟩ := Text.exists_of_isUpper h
    clear h
    revert k
    decide
  · rw [Text.toLower_eq_self h]

theorem toNat_of_isHexDigit {c : Char} (h : isHexDigit c = true) :
    48 ≤ c.toNat ∧ c.toNat ≤ 102 := by
  simp only [isHexDigit, Char.isDigit, Bool.or_eq_true, Bool.and_eq_true, decide_eq_true_eq,
    Char.le_def, ge_iff_le, UInt32.le_iff_toNat_le] at h
  change (48 ≤ c.val.toNat ∧ c.val.toNat ≤ 57 ∨ 97 ≤ c.val.toNat ∧ c.val.toNat ≤ 102) ∨
    65 ≤ c.val.toNat ∧ c.val.toNat ≤ 70 at h
  change 48 ≤ c.val.toNat ∧ c.val.toNat ≤ 102
  omega

theorem isDenied_of_isHexDigit {c : Char} (h : isHexDigit c = true) :
    Idna.isDenied c = false := by
  have hnat := toNat_of_isHexDigit h
  have hlist : ∀ d ∈ "%#/:<>?@[\\]^|".toList, isHexDigit d = false :=
    List.all_iff_forall_prop.1 (by decide)
  have hmem : ("%#/:<>?@[\\]^|".toList.contains c) = false := by
    rw [← Bool.not_eq_true, List.contains_iff_mem]
    intro hc
    rw [hlist c hc] at h
    cases h
  have hne : (c.toNat == 0x7F) = false := by
    rw [beq_eq_false_iff_ne]
    omega
  have hlow : decide (c.toNat ≤ 0x20) = false := by
    rw [decide_eq_false_iff_not]
    omega
  rw [Idna.isDenied, hlow, hne, hmem]
  rfl

end IpAddress

namespace Host

theorem not_at_of_parse {cs : List Char} {host : Host} (h : parse cs = .ok host) : '@' ∉ cs := by
  intro hat
  unfold parse at h
  split at h
  · rename_i r
    have hr : '@' ∈ r := (List.mem_cons.1 hat).resolve_left (by decide)
    unfold parseBrackets at h
    split at h
    · rename_i hlast
      obtain ⟨r', rfl⟩ := List.getLast?_eq_some_iff.1 (by simpa using hlast)
      have hr' : '@' ∈ r' := by simpa using hr
      rw [List.dropLast_concat, IpAddress.stray_at.parseGroups? hr'] at h
      cases h
    · cases h
  · split at h
    · cases h
    · cases h
    · rename_i name _ hname
      obtain ⟨decoded, hdecoded, hascii⟩ := Option.bind_eq_some_iff.1 hname
      have hmem := Utf8.mem_decodeChars? hdecoded (by decide) (Percent.at_mem_decode hat)
      rw [Idna.toAscii?_of_at hmem] at hascii
      cases hascii

/-- The texts that hosts have: names, and groups in brackets. -/
inductive IsText : List Char → Prop where
  | name {cs : List Char} (hne : cs ≠ []) (h : ∀ c ∈ cs, Idna.isDenied c = false) : IsText cs
  | groups {cs : List Char} (h : ∀ c ∈ cs, IpAddress.isHexDigit c = true ∨ c = ':') :
    IsText ('[' :: cs ++ [']'])

theorem isDenied_of_isDigit {c : Char} (h : c.isDigit = true) : Idna.isDenied c = false := by
  obtain ⟨k, hk, rfl⟩ := Text.exists_of_isDigit h
  clear h
  revert k
  decide

theorem IsText.ne_nil {cs : List Char} (h : IsText cs) : cs ≠ [] := by
  cases h with
  | name hne => exact hne
  | groups => exact List.cons_ne_nil _ _

theorem isText_quadText (q : IpAddress.Quad) : IsText (IpAddress.quadText q) := by
  obtain ⟨a, b, c, d⟩ := q
  refine .name (by simp [IpAddress.quadText]) fun x hx => ?_
  have hdigit : ∀ {n}, x ∈ Text.natText n → Idna.isDenied x = false := fun hx =>
    isDenied_of_isDigit (Text.isDigit_of_mem_natText hx)
  simp only [IpAddress.quadText, List.mem_append, List.mem_cons] at hx
  rcases hx with (((hx | rfl | hx)) | rfl | hx) | rfl | hx
  · exact hdigit hx
  · decide
  · exact hdigit hx
  · decide
  · exact hdigit hx
  · decide
  · exact hdigit hx

theorem mem_compressedText {c : Char} {gs : List UInt16} (h : c ∈ IpAddress.compressedText gs) :
    IpAddress.isHexDigit c = true ∨ c = ':' := by
  have hgroups : ∀ {gs : List UInt16}, c ∈ IpAddress.groupsText gs →
      IpAddress.isHexDigit c = true ∨ c = ':' := by
    intro gs hc
    rcases Text.mem_intercalate_singleton hc with rfl | ⟨l, hl, hc⟩
    · exact .inr rfl
    · obtain ⟨g, -, rfl⟩ := List.mem_map.1 hl
      exact .inl (IpAddress.isHexDigit_of_mem_toDigits hc)
  unfold IpAddress.compressedText at h
  dsimp only at h
  split at h
  · simp only [List.mem_append, List.mem_cons] at h
    rcases h with h | rfl | rfl | h
    · exact hgroups h
    · exact .inr rfl
    · exact .inr rfl
    · exact hgroups h
  · exact hgroups h

theorem isText_address (a : IpAddress) : IsText (Host.address a).chars := by
  cases a with
  | v4 a b c d => exact isText_quadText (a, b, c, d)
  | v6 gs => exact .groups fun c hc => mem_compressedText hc

theorem isText_of_parse {cs : List Char} {host : Host} (h : parse cs = .ok host) :
    IsText host.chars := by
  cases host with
  | address a => exact isText_address a
  | domain name =>
    unfold parse at h
    split at h
    · unfold parseBrackets at h
      split at h
      · split at h <;> cases h
      · cases h
    · split at h
      · cases h
      · cases h
      · rename_i name' hne hname
        split at h
        · split at h <;> cases h
        · cases h
          obtain ⟨decoded, -, hascii⟩ := Option.bind_eq_some_iff.1 hname
          exact .name hne fun c hc => Idna.isDenied_of_mem_toAscii? hascii hc

theorem IsText.of_lowered {cs ds : List Char} (h : IsText ds)
    (hl : cs.map Char.toLower = ds.map Char.toLower) : IsText cs := by
  have hmem : ∀ {cs ds : List Char} (_ : cs.map Char.toLower = ds.map Char.toLower), ∀ c ∈ cs,
      ∃ d ∈ ds, c.toLower = d.toLower := by
    intro cs ds hl c hc
    have hlow := List.mem_map_of_mem (f := Char.toLower) hc
    rw [hl] at hlow
    obtain ⟨d, hd, he⟩ := List.mem_map.1 hlow
    exact ⟨d, hd, he.symm⟩
  cases h with
  | name hne hall =>
    refine .name ?_ fun c hc => ?_
    · rintro rfl
      exact hne (List.map_eq_nil_iff.1 hl.symm)
    · obtain ⟨d, hd, he⟩ := hmem hl c hc
      rw [← Idna.isDenied_toLower, he, Idna.isDenied_toLower, hall d hd]
  | groups hall =>
    rw [List.map_append, List.map_cons, List.map_singleton] at hl
    obtain ⟨front, back, rfl, hfront, hback⟩ := List.map_eq_append_iff.1 hl
    obtain ⟨c, inner, rfl, hc, hinner⟩ := List.map_eq_cons_iff.1 hfront
    obtain ⟨e, rfl, he⟩ := List.map_eq_singleton_iff.1 hback
    rw [Text.eq_of_toLower_eq (d := '[') hc rfl, Text.eq_of_toLower_eq (d := ']') he rfl]
    refine .groups fun x hx => ?_
    obtain ⟨y, hy, hxy⟩ := hmem hinner x hx
    rcases hall y hy with hhex | rfl
    · rw [← IpAddress.isHexDigit_toLower, hxy, IpAddress.isHexDigit_toLower]
      exact .inl hhex
    · exact .inr (Text.eq_of_toLower_eq hxy rfl)

/-- Besides brackets and colons no text of a host has a denied character. -/
theorem IsText.isDenied {cs : List Char} (h : IsText cs) {c : Char} (hc : c ∈ cs) :
    Idna.isDenied c = false ∨ c = ':' ∨ c = '[' ∨ c = ']' := by
  cases h with
  | name hne hall => exact .inl (hall c hc)
  | groups hall =>
    rcases List.mem_append.1 hc with hc | hc
    · rcases List.mem_cons.1 hc with rfl | hc
      · exact .inr (.inr (.inl rfl))
      · exact (hall c hc).imp IpAddress.isDenied_of_isHexDigit .inl
    · exact .inr (.inr (.inr (List.mem_singleton.1 hc)))

end Host

end EndpointClient
