import EndpointClient.Proofs.Text.Ascii
import EndpointClient.Proofs.Url.Host

/-!
# EndpointClient.Proofs.Url.PlainName

Names that are read as they stand: labels of letters in lower case and digits, parted by points,
each of which starts with a letter.

* `Percent.decode_of_not_mem`: nothing in them is written out.
* `Idna.direction_of_ascii`: nothing in ASCII is written from right to left, as far as the table of
  directions goes. `Idna.toAscii?_of_plain`: so a plain name is its own ASCII form.
* `Host.parse_of_plain`: it is a domain, and no number.
-/

namespace EndpointClient

theorem Percent.decode_of_not_mem {cs : List Char} (h : '%' ∉ cs) :
    decode cs = cs.flatMap Utf8.encodeChar := by
  fun_induction decode cs with
  | case1 => exact absurd List.mem_cons_self h
  | case2 => exact absurd List.mem_cons_self h
  | case3 c r hc ih => rw [ih fun hr => h (List.mem_cons_of_mem c hr), List.flatMap_cons]
  | case4 => rfl

/-! ## Plain names -/

namespace Host

/-- A letter in lower case, and letters in lower case and digits behind it. -/
structure IsPlainLabel (l : List Char) : Prop where
  start : ∃ c r, l = c :: r ∧ c.isLower = true
  sign : ∀ c ∈ l, c.isLower = true ∨ c.isDigit = true

/-- One or more plain labels, parted by points. -/
def IsPlain (cs : List Char) : Prop :=
  ∃ ls, ls ≠ [] ∧ (∀ l ∈ ls, IsPlainLabel l) ∧ cs = ['.'].intercalate ls

def isPlainSign (c : Char) : Bool := c.isLower || c.isDigit || c == '.'

theorem ascii_of_isPlainSign {c : Char} (h : isPlainSign c = true) : c.toNat < 0x80 := by
  simp only [isPlainSign, Bool.or_eq_true, beq_iff_eq] at h
  rcases h with (h | h) | rfl
  · exact Text.ascii_of_isLower h
  · exact Text.ascii_of_isDigit h
  · decide

theorem of_isPlainSign {P : Char → Prop}
    (h : ∀ n < 128, isPlainSign (Char.ofNat n) = true → P (Char.ofNat n)) {c : Char}
    (hc : isPlainSign c = true) : P c :=
  Text.of_ascii (P := fun c => isPlainSign c = true → P c) h (ascii_of_isPlainSign hc) hc

theorem IsPlainLabel.isPlainSign {l : List Char} (h : IsPlainLabel l) :
    ∀ c ∈ l, isPlainSign c = true := by
  intro c hc
  unfold Host.isPlainSign
  rcases h.sign c hc with hlower | hdigit
  · rw [hlower]
    rfl
  · rw [hdigit, Bool.or_true]
    rfl

theorem IsPlainLabel.point_not_mem {l : List Char} (h : IsPlainLabel l) : '.' ∉ l := by
  intro hmem
  exact absurd (h.sign '.' hmem) (by decide)

theorem IsPlain.isPlainSign {cs : List Char} (h : IsPlain cs) :
    ∀ c ∈ cs, isPlainSign c = true := by
  obtain ⟨ls, -, hls, rfl⟩ := h
  intro c hc
  rcases Text.mem_intercalate_singleton hc with rfl | ⟨l, hl, hc⟩
  · rfl
  · exact (hls l hl).isPlainSign c hc

theorem IsPlain.start {cs : List Char} (h : IsPlain cs) :
    ∃ c r, cs = c :: r ∧ c.isLower = true := by
  obtain ⟨ls, hne, hls, rfl⟩ := h
  obtain ⟨l, ls, rfl⟩ := List.exists_cons_of_ne_nil hne
  obtain ⟨c, r, rfl, hc⟩ := (hls l List.mem_cons_self).start
  by_cases hrest : ls = []
  · subst hrest
    exact ⟨c, r, List.intercalate_singleton, hc⟩
  · rw [List.intercalate_cons_of_ne_nil hrest]
    exact ⟨c, _, rfl, hc⟩

end Host

/-! ## Their ASCII form -/

namespace Idna

/-- No word for a script that is written from right to left belongs to a range that starts in
ASCII. -/
def LeftToRight (e : Nat × Nat × List Char) : Prop :=
  e.1 < 0x80 → e.2.2.drop 1 ∉ [['R'], ['A', 'L'], ['A', 'N']]

instance (e : Nat × Nat × List Char) : Decidable (LeftToRight e) :=
  inferInstanceAs (Decidable (_ → _))

set_option maxRecDepth 10000 in
theorem leftToRight_directions : ∀ e ∈ directions, LeftToRight e := by
  unfold directions
  apply Text.Table.forall_read
  -- one line of the table at a time
  repeat refine .cons rfl (by decide +kernel) ?_
  exact .nil

theorem direction_of_ascii {c : Char} (h : c.toNat < 0x80) : direction c ∉ ["R", "AL", "AN"] := by
  rcases directions.wordOr_cases c.toNat "L" with hword | ⟨e, hmem, hle, hword⟩
  · rw [direction, hword]
    decide
  · rw [direction, hword]
    intro hright
    have hlist : String.ofList _ ∈ [['R'], ['A', 'L'], ['A', 'N']].map String.ofList := hright
    obtain ⟨w, hw, heq⟩ := List.mem_map.1 hlist
    rw [String.ofList_injective heq] at hw
    exact leftToRight_directions e hmem (Nat.lt_of_le_of_lt hle h) hw

theorem hasRightToLeft_of_ascii {l : List Char} (h : ∀ c ∈ l, c.toNat < 0x80) :
    hasRightToLeft l = false := by
  rw [hasRightToLeft, List.any_eq_false]
  intro c hc
  rw [List.contains_iff_mem]
  exact direction_of_ascii (h c hc)

theorem labelForms?_of_plain {l : List Char} (h : Host.IsPlainLabel l) :
    labelForms? l = some ⟨l, l⟩ := by
  have hascii : isAscii l = true :=
    List.all_eq_true.2 fun c hc => decide_eq_true (Host.ascii_of_isPlainSign (h.isPlainSign c hc))
  unfold labelForms?
  split
  · exact absurd (h.sign '-' (by simp)) (by decide)
  · exact if_pos hascii

theorem labels_intercalate {ls : List (List Char)} (hne : ls ≠ [])
    (h : ∀ l ∈ ls, Host.IsPlainLabel l) : labels (['.'].intercalate ls) = ls := by
  rw [labels_eq, List.splitOn_intercalate _ (fun l hl => (h l hl).point_not_mem) hne]

theorem toAscii?_of_plain {cs : List Char} (h : Host.IsPlain cs) : toAscii? cs = some cs := by
  have hsign := h.isPlainSign
  have hascii : ∀ c ∈ cs, c.toNat < 0x80 := fun c hc => Host.ascii_of_isPlainSign (hsign c hc)
  have hmap : cs.mapM mapChar? = some (cs.map fun c => [c]) := by
    refine Text.mapM_eq_some fun c hc => ?_
    have hlower := Host.of_isPlainSign (P := fun c => c.toLower = c) (by decide +kernel)
      (hsign c hc)
    rw [mapChar?, if_pos (hascii c hc), hlower]
  have hdenied : cs.any isDenied = false := by
    rw [List.any_eq_false]
    intro c hc
    exact Host.of_isPlainSign (P := fun c => ¬ isDenied c = true) (by decide +kernel) (hsign c hc)
  obtain ⟨ls, hne, hls, rfl⟩ := h
  have hlabels := labels_intercalate hne hls
  have hforms : ls.mapM labelForms? = some (ls.map fun l => ⟨l, l⟩) :=
    Text.mapM_eq_some fun l hl => labelForms?_of_plain (hls l hl)
  have hleft : ls.any hasRightToLeft = false := by
    rw [List.any_eq_false]
    intro l hl
    rw [hasRightToLeft_of_ascii fun c hc => Host.ascii_of_isPlainSign ((hls l hl).isPlainSign c hc)]
    exact Bool.false_ne_true
  have hflatten : ((['.'].intercalate ls).map fun c => [c]).flatten = ['.'].intercalate ls := by
    rw [← List.flatMap_def, List.flatMap_singleton']
  unfold toAscii?
  simp only [hmap, Option.bind_eq_bind, Option.bind_some, hflatten, Text.normalize_of_ascii hascii,
    hdenied, hlabels, hforms, List.map_map, Function.comp_def, List.map_id', hleft,
    Bool.false_and, Bool.false_eq_true, if_false, Option.pure_def]

end Idna

/-! ## Their reading as a host -/

namespace Host

/-- A label that starts with a letter is no number. -/
theorem IsPlainLabel.readNumber {l : List Char} (h : IsPlainLabel l) :
    l.all Char.isDigit = false ∧ readNumber l = none := by
  obtain ⟨c, r, rfl, hc⟩ := h.start
  have hdigit : c.isDigit = false :=
    of_isPlainSign (P := fun c => c.isLower = true → c.isDigit = false) (by decide +kernel)
      (h.isPlainSign c List.mem_cons_self) hc
  have hall : (c :: r).all Char.isDigit = false := by
    rw [List.all_cons, hdigit, Bool.false_and]
  refine ⟨hall, ?_⟩
  have hzero : c ≠ '0' := by
    rintro rfl
    cases hdigit
  unfold Host.readNumber
  split
  · rfl
  · simp_all
  · simp_all
  · simp_all
  · exact if_neg (by rw [hall]; exact Bool.false_ne_true)

theorem endsInNumber_of_plain {cs : List Char} (h : IsPlain cs) : endsInNumber cs = false := by
  obtain ⟨ls, hne, hls, rfl⟩ := h
  have hlast : ls.getLast? = some (ls.getLast hne) := List.getLast?_eq_some_getLast hne
  have hplain := hls _ (List.getLast_mem hne)
  generalize ls.getLast hne = last at hlast hplain
  obtain ⟨hall, hnumber⟩ := hplain.readNumber
  obtain ⟨c, r, rfl, -⟩ := hplain.start
  have hparts : numberParts (['.'].intercalate ls) = ls := by
    unfold numberParts
    rw [Idna.labels_intercalate hne hls]
    exact if_neg (by simp [hlast])
  unfold endsInNumber
  rw [hparts, hlast]
  dsimp only
  rw [hall, hnumber]
  rfl

theorem parse_of_plain {cs : List Char} (h : IsPlain cs) : parse cs = .ok (.domain cs) := by
  have hsign := h.isPlainSign
  have hpercent : '%' ∉ cs := by
    intro hmem
    exact absurd (hsign '%' hmem) (by decide)
  have hdecode : Utf8.decodeChars? (Percent.decode cs) = some cs := by
    rw [Percent.decode_of_not_mem hpercent]
    exact Utf8.decodeChars?_flatMap cs
  obtain ⟨c, r, rfl, hc⟩ := h.start
  unfold Host.parse
  split
  · rename_i heq
    cases heq
    exact absurd hc (by decide)
  · rw [hdecode, Option.bind_some, Idna.toAscii?_of_plain h]
    exact if_neg (by rw [endsInNumber_of_plain h]; exact Bool.false_ne_true)

end Host

end EndpointClient
