import EndpointClient.Proofs.Text.Normalization
import EndpointClient.Proofs.Text.Parts
import EndpointClient.Proofs.Text.Utf8
import EndpointClient.Text.Letter
import EndpointClient.Url.Idna
import EndpointClient.Url.Percent
import Mathlib.Data.Bool.AllAny

/-!
# EndpointClient.Proofs.Url.Idna

What an `@` in a hostname comes to, and which characters the ASCII form of a name has.

* `Utf8.mem_decodeChars?`, `Percent.at_mem_decode`: an `@` is still there when bytes are decoded.
* `Idna.toAscii?_of_at`: then there is no ASCII form, since neither the mapping nor the normalization
  takes it away.
* `Punycode.mem_encode`, `Idna.isDenied_of_mem_toAscii?`: the ASCII form has no denied character.
-/

namespace EndpointClient

namespace Utf8

variable {b : UInt8}

/-- A byte of ASCII is not lost in the form of a character. -/
theorem head_eq_char {a : UInt8} {rest r : Bytes} {c : Char} (h : head a rest = .char c r)
    (hb : b < 0x80) (hmem : b ∈ a :: rest) : c = Char.ofNat b.toNat ∨ b ∈ r := by
  have hnat : b.toNat < 0x80 := UInt8.lt_iff_toNat_lt.1 hb
  have hne {t : UInt8} (ht : 0x80 ≤ t.toNat) : b ≠ t := by
    rintro rfl
    omega
  have hsecond {t : UInt8} (ht : isSecond a t = true) : b ≠ t := hne (isSecond_iff.1 ht).1.1
  have htail {t : UInt8} (ht : isTail t = true) : b ≠ t := hne (isTail_iff.1 ht).1
  have hv := head_view a rest
  rw [h] at hv
  cases hv with
  | one ha =>
    rcases List.mem_cons.1 hmem with rfl | hrest
    · exact .inl rfl
    · exact .inr hrest
  | two ha h2 =>
    have hfirst := hne (t := a) (by omega)
    simpa [hfirst, hsecond h2] using Or.inr hmem
  | three ha h2 h3 =>
    have hfirst := hne (t := a) (by omega)
    simpa [hfirst, hsecond h2, htail h3] using Or.inr hmem
  | four ha h2 h3 h4 =>
    have hfirst := hne (t := a) (by omega)
    simpa [hfirst, hsecond h2, htail h3, htail h4] using Or.inr hmem

/-- A byte of ASCII is read as its character. -/
theorem mem_decodeChars? {bs : Bytes} {cs : List Char} (h : decodeChars? bs = some cs)
    (hb : b < 0x80) (hmem : b ∈ bs) : Char.ofNat b.toNat ∈ cs := by
  induction bs using decodeChars?.induct generalizing cs with
  | case1 => cases hmem
  | case2 a rest _ c r _ hhead ih =>
    rw [decodeChars?_cons, hhead] at h
    obtain ⟨tail, htail, rfl⟩ := Option.map_eq_some_iff.1 h
    rcases head_eq_char hhead hb hmem with rfl | hr
    · exact List.mem_cons_self
    · exact List.mem_cons_of_mem c (ih htail hr)
  | case3 a rest _ r _ hhead =>
    rw [decodeChars?_cons, hhead] at h
    cases h

end Utf8

namespace Percent

theorem at_mem_decode {cs : List Char} (h : '@' ∈ cs) : 0x40 ∈ decode cs := by
  fun_induction decode cs with
  | case1 a b r hx ih =>
    have hr : '@' ∈ r := by
      have hne : ∀ x, IpAddress.isHexDigit x = true → '@' ≠ x := by
        rintro x hx rfl
        exact absurd hx (by decide)
      rw [Bool.and_eq_true] at hx
      grind
    exact List.mem_cons_of_mem _ (ih hr)
  | case2 a b r hx ih =>
    have hr : '@' ∈ a :: b :: r := (List.mem_cons.1 h).resolve_left (by decide)
    exact List.mem_cons_of_mem _ (ih hr)
  | case3 c r hc ih =>
    rcases List.mem_cons.1 h with rfl | hr
    · exact List.mem_append_left _ (by decide)
    · exact List.mem_append_right _ (ih hr)
  | case4 => cases h

end Percent

namespace Punycode

theorem mem_encodeNumber {c : Char} {bias k q : Nat} (h : c ∈ encodeNumber bias k q) :
    ∃ v, v < 36 ∧ c = digit v := by
  fun_induction encodeNumber bias k q with
  | case1 k q t hlt =>
    have := threshold_le k bias
    exact ⟨q, by omega, List.mem_singleton.1 h⟩
  | case2 k q t hge ih =>
    rcases List.mem_cons.1 h with rfl | hrest
    · have hle := threshold_le k bias
      have hmod : (q - t) % (36 - t) < 36 - t := Nat.mod_lt _ (by omega)
      exact ⟨_, by omega, rfl⟩
    · exact ih hrest

theorem mem_digits_look {c d : Char} {basic n : Nat} {s : Encoding}
    (hs : c ∈ (s.look basic n d).digits) : c ∈ s.digits ∨ ∃ v, v < 36 ∧ c = digit v := by
  unfold Encoding.look at hs
  split at hs
  · exact .inl hs
  · split at hs
    · exact (List.mem_append.1 hs).imp_right mem_encodeNumber
    · exact .inl hs

theorem mem_digits_foldl {c : Char} {basic n : Nat} {label : List Char} {s : Encoding}
    (hs : c ∈ (label.foldl (Encoding.look basic n) s).digits) :
    c ∈ s.digits ∨ ∃ v, v < 36 ∧ c = digit v := by
  induction label generalizing s with
  | nil => exact .inl hs
  | cons d label ih =>
    rcases ih hs with hlook | hdigit
    · exact mem_digits_look hlook
    · exact .inr hdigit

theorem mem_encodeFrom {c : Char} {label : List Char} {basic next : Nat} {ns : List Nat}
    {s : Encoding} (h : c ∈ encodeFrom label basic next ns s) :
    c ∈ s.digits ∨ ∃ v, v < 36 ∧ c = digit v := by
  induction ns generalizing next s with
  | nil => exact .inl h
  | cons n rest ih =>
    rcases ih h with hfold | hdigit
    · have hdigits := mem_digits_foldl hfold
      exact hdigits
    · exact .inr hdigit

theorem mem_encode {c : Char} {label : List Char} (h : c ∈ encode label) :
    c ∈ label ∨ c = '-' ∨ ∃ v, v < 36 ∧ c = digit v := by
  unfold encode at h
  rcases List.mem_append.1 h with hfront | hback
  · split at hfront
    · cases hfront
    · rcases List.mem_append.1 hfront with hbasic | hhyphen
      · exact .inl (List.mem_filter.1 hbasic).1
      · exact .inr (.inl (List.mem_singleton.1 hhyphen))
  · rcases mem_encodeFrom hback with hnil | hdigit
    · cases hnil
    · exact .inr (.inr hdigit)

end Punycode

namespace Idna

theorem labels_eq (cs : List Char) : labels cs = cs.splitOn '.' := Text.cut_eq_splitOnP _ cs

theorem mem_of_mem_labels {cs l : List Char} {c : Char} (hl : l ∈ labels cs) (hc : c ∈ l) :
    c ∈ cs := by
  rw [labels_eq] at hl
  have h := Text.mem_intercalate_of_mem ['.'] hl hc
  rwa [List.intercalate_splitOn] at h

theorem mapChar?_at : mapChar? '@' = some ['@'] := rfl

theorem isDenied_at : isDenied '@' = true := by decide

theorem isDenied_hyphen : isDenied '-' = false := by decide

theorem isDenied_digit : ∀ v < 36, isDenied (Punycode.digit v) = false := by decide

/-- A label brings no denied character with it but those that it has. -/
theorem mem_of_labelForms? {label : List Char} {f : LabelForms} (h : labelForms? label = some f)
    {c : Char} (hc : c ∈ f.ascii) (hd : isDenied c = true) : c ∈ label := by
  unfold labelForms? at h
  split at h
  · obtain ⟨decoded, -, h⟩ := Option.bind_eq_some_iff.1 h
    split at h
    · cases h
      exact hc
    · cases h
  · split at h
    · cases h
      exact hc
    · split at h
      · cases h
        rcases List.mem_append.1 hc with hprefix | hlabel
        · have hnone : ∀ d ∈ ['x', 'n', '-', '-'], isDenied d = false :=
            List.all_iff_forall_prop.1 (by decide)
          rw [hnone c hprefix] at hd
          cases hd
        · rcases Punycode.mem_encode hlabel with hmem | rfl | ⟨v, hv, rfl⟩
          · exact hmem
          · rw [isDenied_hyphen] at hd
            cases hd
          · rw [isDenied_digit v hv] at hd
            cases hd
      · cases h

theorem toAscii?_eq_some {name ascii : List Char} (h : toAscii? name = some ascii) :
    ∃ mapped, name.mapM mapChar? = some mapped ∧
      (Text.normalize mapped.flatten).any isDenied = false ∧
      ∃ forms, (labels (Text.normalize mapped.flatten)).mapM labelForms? = some forms ∧
        ascii = ['.'].intercalate (forms.map (·.ascii)) := by
  obtain ⟨mapped, hmapped, h⟩ := Option.bind_eq_some_iff.1 h
  dsimp only at h
  split at h
  · cases h
  · rename_i hany
    obtain ⟨forms, hforms, h⟩ := Option.bind_eq_some_iff.1 h
    split at h
    · cases h
    · cases h
      exact ⟨mapped, hmapped, by simpa using hany, forms, hforms, rfl⟩

theorem isDenied_toLower (c : Char) : isDenied c.toLower = isDenied c := by
  by_cases h : c.isUpper = true
  · obtain ⟨k, hk, rfl⟩ := Text.exists_of_isUpper h
    clear h
    revert k
    decide
  · rw [Text.toLower_eq_self h]

theorem toAscii?_of_at {name : List Char} (h : '@' ∈ name) : toAscii? name = none := by
  cases hascii : toAscii? name with
  | none => rfl
  | some ascii =>
    obtain ⟨mapped, hmapped, hany, -⟩ := toAscii?_eq_some hascii
    have hat : ['@'] ∈ mapped := by
      have hmem := List.mem_map.2 ⟨'@', h, mapChar?_at⟩
      rw [Text.map_eq_of_mapM_eq_some hmapped] at hmem
      simpa using hmem
    have hnormal : '@' ∈ Text.normalize mapped.flatten :=
      Text.mem_normalize Text.spared_at (by decide)
        (List.mem_flatten.2 ⟨['@'], hat, List.mem_singleton.2 rfl⟩)
    rw [List.any_eq_false] at hany
    exact absurd isDenied_at (hany '@' hnormal)

theorem isDenied_of_mem_toAscii? {name ascii : List Char} (h : toAscii? name = some ascii)
    {c : Char} (hc : c ∈ ascii) : isDenied c = false := by
  obtain ⟨mapped, -, hany, forms, hforms, rfl⟩ := toAscii?_eq_some h
  rw [List.any_eq_false] at hany
  rcases Text.mem_intercalate_singleton hc with rfl | ⟨l, hl, hc⟩
  · decide
  · obtain ⟨f, hf, rfl⟩ := List.mem_map.1 hl
    have hmem := List.mem_map_of_mem (f := some) hf
    rw [← Text.map_eq_of_mapM_eq_some hforms] at hmem
    obtain ⟨label, hlabel, hforms⟩ := List.mem_map.1 hmem
    rw [← Bool.not_eq_true]
    intro hd
    exact hany c (mem_of_mem_labels hlabel (mem_of_labelForms? hforms hc hd)) hd

end Idna

end EndpointClient
