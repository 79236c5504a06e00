import EndpointClient.Text.Utf8

/-!
# EndpointClient.Proofs.Text.Utf8

What bytes are read as, whatever they are.

* `head_view`: what comes of reading a head, with a case for each way in which it can end.
* `head_encodeChar`, `eq_of_head_char`: a character is read off exactly where its form stands.
* `IsStart part`: some character's form starts with these bytes. `IsInvalid part rest`: of
  `part ++ rest` the bytes `part` are the longest that are to be replaced together.
  `invalid_of_head`, `IsInvalid.head_eq`: what is read as no character is such a part, and nothing
  else is.
* `Reads bs cs` is the rule by which bytes are read: forms become their characters, and invalid parts
  U+FFFD. `reads_iff`: decoding goes by that rule. `reads_toUTF8`: every text is read off its bytes.
-/

namespace EndpointClient.Utf8

variable {a b c d : UInt8} {r rest bs part : Bytes} {ch : Char} {cs : List Char}

/-! ## Bytes as numbers -/

theorem inRange_iff {lo hi : UInt8} :
    (lo ≤ a && a ≤ hi) = true ↔ lo.toNat ≤ a.toNat ∧ a.toNat ≤ hi.toNat := by
  simp only [Bool.and_eq_true, decide_eq_true_eq, UInt8.le_iff_toNat_le]

theorem isTail_iff : isTail b = true ↔ 0x80 ≤ b.toNat ∧ b.toNat ≤ 0xBF := inRange_iff

theorem isSecond_iff : isSecond a b = true ↔ (0x80 ≤ b.toNat ∧ b.toNat ≤ 0xBF) ∧
    (a.toNat = 0xE0 → 0xA0 ≤ b.toNat) ∧ (a.toNat = 0xED → b.toNat ≤ 0x9F) ∧
    (a.toNat = 0xF0 → 0x90 ≤ b.toNat) ∧ (a.toNat = 0xF4 → b.toNat ≤ 0x8F) := by
  have hnat (k : UInt8) : (a == k) = true ↔ a.toNat = k.toNat := by
    rw [beq_iff_eq, ← UInt8.toNat_inj]
  unfold isSecond
  repeat' split
  all_goals simp only [hnat] at *
  all_goals simp only [isTail, Bool.and_eq_true, decide_eq_true_eq, UInt8.le_iff_toNat_le]
  all_goals simp only [UInt8.reduceToNat] at *
  all_goals omega

theorem toNat_range (ch : Char) :
    ch.toNat < 0xD800 ∨ 0xDFFF < ch.toNat ∧ ch.toNat < 0x110000 := ch.valid

theorem toNat_ofNat {n : Nat} (h : n < 0xD800 ∨ 0xDFFF < n ∧ n < 0x110000) :
    (Char.ofNat n).toNat = n := by
  rw [Char.ofNat, dif_pos h]
  rfl

/-- The form of a character is the one that it has in every text. -/
theorem encodeChar_eq (ch : Char) : encodeChar ch = String.utf8EncodeChar ch := by
  have hrange := toNat_range ch
  have hval : ch.val.toNat = ch.toNat := rfl
  simp only [encodeChar, String.utf8EncodeChar, hval]
  generalize ch.toNat = n at hrange
  have h1 : n ≤ 127 ↔ n < 0x80 := by omega
  have h2 : n ≤ 2047 ↔ n < 0x800 := by omega
  have h3 : n ≤ 65535 ↔ n < 0x10000 := by omega
  simp only [h1, h2, h3]
  split
  · rfl
  · split
    · rw [show n / 64 % 32 = n / 64 by omega, Nat.add_comm 0xC0, Nat.add_comm 0x80]
    · split
      · rw [show n / 4096 % 16 = n / 4096 by omega, Nat.add_comm 0xE0]
        simp only [Nat.add_comm 0x80, Nat.toUInt8_eq]
      · rw [show n / 262144 % 8 = n / 262144 by omega, Nat.add_comm 0xF0]
        simp only [Nat.add_comm 0x80, Nat.toUInt8_eq]

/-! ## Heads that are characters -/

theorem head_one (h : a.toNat < 0x80) : head a rest = .char (Char.ofNat a.toNat) rest :=
  if_pos (UInt8.lt_iff_toNat_lt.2 h)

theorem not_inRange {lo hi : UInt8} (h : hi.toNat < a.toNat) : ¬ (lo ≤ a && a ≤ hi) = true :=
  fun hin => Nat.not_le.2 h (inRange_iff.1 hin).2

theorem not_lt_of_le (h : 0x80 ≤ a.toNat) : ¬ a < 0x80 :=
  fun hlt => Nat.not_lt.2 h (UInt8.lt_iff_toNat_lt.1 hlt)

theorem head_two (ha : 0xC2 ≤ a.toNat ∧ a.toNat ≤ 0xDF) (hb : isTail b = true) :
    head a (b :: r) = .char (Char.ofNat (a.toNat % 32 * 64 + low b)) r := by
  have h1 : ¬ a < 0x80 := not_lt_of_le (by omega)
  have h2 : (0xC2 ≤ a && a ≤ 0xDF) = true := inRange_iff.2 ha
  simp only [head, if_neg h1, if_pos h2, if_pos hb]

theorem head_three (ha : 0xE0 ≤ a.toNat ∧ a.toNat ≤ 0xEF) (hb : isSecond a b = true)
    (hc : isTail c = true) : head a (b :: c :: r) =
      .char (Char.ofNat (a.toNat % 16 * 4096 + low b * 64 + low c)) r := by
  have h1 : ¬ a < 0x80 := not_lt_of_le (by omega)
  have h2 : ¬ (0xC2 ≤ a && a ≤ 0xDF) = true :=
    not_inRange (show 0xDF < a.toNat by omega)
  have h3 : (0xE0 ≤ a && a ≤ 0xEF) = true := inRange_iff.2 ha
  simp only [head, if_neg h1, if_neg h2, if_pos h3, if_pos hb, if_pos hc]

theorem head_four (ha : 0xF0 ≤ a.toNat ∧ a.toNat ≤ 0xF4) (hb : isSecond a b = true)
    (hc : isTail c = true) (hd : isTail d = true) : head a (b :: c :: d :: r) =
      .char (Char.ofNat (a.toNat % 8 * 262144 + low b * 4096 + low c * 64 + low d)) r := by
  have h1 : ¬ a < 0x80 := not_lt_of_le (by omega)
  have h2 : ¬ (0xC2 ≤ a && a ≤ 0xDF) = true :=
    not_inRange (show 0xDF < a.toNat by omega)
  have h3 : ¬ (0xE0 ≤ a && a ≤ 0xEF) = true :=
    not_inRange (show 0xEF < a.toNat by omega)
  have h4 : (0xF0 ≤ a && a ≤ 0xF4) = true := inRange_iff.2 ha
  simp only [head, if_neg h1, if_neg h2, if_neg h3, if_pos h4, if_pos hb, if_pos hc, if_pos hd]

theorem toNat_toUInt8 {n : Nat} (h : n < 256) : n.toUInt8.toNat = n := by
  rw [Nat.toUInt8_eq]
  exact UInt8.toNat_ofNat_of_lt' h

/-- A character is read off its form, whatever comes after it. -/
theorem head_encodeChar (ch : Char) (rest : Bytes) :
    ∃ a r, encodeChar ch ++ rest = a :: r ∧ head a r = .char ch rest := by
  have hrange := toNat_range ch
  have hch : Char.ofNat ch.toNat = ch := Char.ofNat_toNat ch
  unfold encodeChar
  generalize ch.toNat = n at hrange hch
  have hlast := toNat_toUInt8 (n := 0x80 + n % 64) (by omega)
  have hmiddle := toNat_toUInt8 (n := 0x80 + n / 64 % 64) (by omega)
  dsimp only
  by_cases h1 : n < 0x80
  · have ha := toNat_toUInt8 (n := n) (by omega)
    rw [if_pos h1]
    refine ⟨_, _, rfl, ?_⟩
    show head _ rest = _
    rw [head_one (by omega), ha, hch]
  · rw [if_neg h1]
    by_cases h2 : n < 0x800
    · have ha := toNat_toUInt8 (n := 0xC0 + n / 64) (by omega)
      have hn : (0xC0 + n / 64) % 32 * 64 + (0x80 + n % 64) % 64 = n := by omega
      rw [if_pos h2]
      refine ⟨_, _, rfl, ?_⟩
      show head _ (_ :: rest) = _
      rw [head_two (by omega) (isTail_iff.2 (by omega)), low, ha, hlast, hn, hch]
    · rw [if_neg h2]
      by_cases h3 : n < 0x10000
      · have ha := toNat_toUInt8 (n := 0xE0 + n / 4096) (by omega)
        have hn : (0xE0 + n / 4096) % 16 * 4096 + (0x80 + n / 64 % 64) % 64 * 64 +
          (0x80 + n % 64) % 64 = n := by omega
        rw [if_pos h3]
        refine ⟨_, _, rfl, ?_⟩
        show head _ (_ :: _ :: rest) = _
        rw [head_three (by omega) (isSecond_iff.2 (by omega)) (isTail_iff.2 (by omega)), low, low,
          ha, hmiddle, hlast, hn, hch]
      · have ha := toNat_toUInt8 (n := 0xF0 + n / 262144) (by omega)
        have hsecond := toNat_toUInt8 (n := 0x80 + n / 4096 % 64) (by omega)
        have hn : (0xF0 + n / 262144) % 8 * 262144 + (0x80 + n / 4096 % 64) % 64 * 4096 +
          (0x80 + n / 64 % 64) % 64 * 64 + (0x80 + n % 64) % 64 = n := by omega
        rw [if_neg h3]
        refine ⟨_, _, rfl, ?_⟩
        show head _ (_ :: _ :: _ :: rest) = _
        rw [head_four (by omega) (isSecond_iff.2 (by omega)) (isTail_iff.2 (by omega))
          (isTail_iff.2 (by omega)), low, low, low, ha, hsecond, hmiddle, hlast, hn, hch]

theorem toUInt8_of_toNat {n : Nat} (h : n = a.toNat) : n.toUInt8 = a := by
  rw [h, Nat.toUInt8_eq, UInt8.ofNat_toNat]

/-! ## What comes of reading a head -/

/-- What a sequence of bytes that starts with `a` is read as: a character, or bytes that end where no
character's form goes on. -/
inductive View (a : UInt8) : Bytes → Head → Prop where
  | one {rest : Bytes} (ha : a.toNat < 0x80) : View a rest (.char (Char.ofNat a.toNat) rest)
  | two {b : UInt8} {r : Bytes} (ha : 0xC2 ≤ a.toNat ∧ a.toNat ≤ 0xDF)
      (hb : isSecond a b = true) :
      View a (b :: r) (.char (Char.ofNat (a.toNat % 32 * 64 + low b)) r)
  | three {b c : UInt8} {r : Bytes} (ha : 0xE0 ≤ a.toNat ∧ a.toNat ≤ 0xEF)
      (hb : isSecond a b = true) (hc : isTail c = true) :
      View a (b :: c :: r) (.char (Char.ofNat (a.toNat % 16 * 4096 + low b * 64 + low c)) r)
  | four {b c d : UInt8} {r : Bytes} (ha : 0xF0 ≤ a.toNat ∧ a.toNat ≤ 0xF4)
      (hb : isSecond a b = true) (hc : isTail c = true) (hd : isTail d = true) :
      View a (b :: c :: d :: r)
        (.char (Char.ofNat (a.toNat % 8 * 262144 + low b * 4096 + low c * 64 + low d)) r)
  | stray {rest : Bytes} (ha : 0x80 ≤ a.toNat ∧ a.toNat < 0xC2 ∨ 0xF4 < a.toNat) :
      View a rest (.broken rest)
  | first {rest : Bytes} (ha : 0xC2 ≤ a.toNat ∧ a.toNat ≤ 0xF4)
      (hn : ∀ b ∈ rest.head?, isSecond a b = false) : View a rest (.broken rest)
  | second {b : UInt8} {r : Bytes} (ha : 0xE0 ≤ a.toNat ∧ a.toNat ≤ 0xF4)
      (hb : isSecond a b = true) (hn : ∀ c ∈ r.head?, isTail c = false) :
      View a (b :: r) (.broken r)
  | third {b c : UInt8} {r : Bytes} (ha : 0xF0 ≤ a.toNat ∧ a.toNat ≤ 0xF4)
      (hb : isSecond a b = true) (hc : isTail c = true) (hn : ∀ d ∈ r.head?, isTail d = false) :
      View a (b :: c :: r) (.broken r)

theorem isSecond_of_le (ha : a.toNat ≤ 0xDF) (b : UInt8) : isSecond a b = isTail b := by
  rw [Bool.eq_iff_iff, isSecond_iff, isTail_iff]
  omega

theorem head_view (a : UInt8) (rest : Bytes) : View a rest (head a rest) := by
  unfold head
  split
  · exact .one (UInt8.lt_iff_toNat_lt.1 ‹_›)
  rename_i h1
  have h1 : 0x80 ≤ a.toNat := Nat.le_of_not_lt fun h => h1 (UInt8.lt_iff_toNat_lt.2 h)
  split
  · rename_i h2
    have h2 : 0xC2 ≤ a.toNat ∧ a.toNat ≤ 0xDF := inRange_iff.1 h2
    split
    · split
      · exact .two h2 (by rwa [isSecond_of_le h2.2])
      · rename_i hb
        exact .first (by omega) (by simpa [isSecond_of_le h2.2] using hb)
    · exact .first (by omega) (by simp)
  rename_i h2
  have h2 : ¬ (0xC2 ≤ a.toNat ∧ a.toNat ≤ 0xDF) := fun h => h2 (inRange_iff.2 h)
  split
  · rename_i h3
    have h3 : 0xE0 ≤ a.toNat ∧ a.toNat ≤ 0xEF := inRange_iff.1 h3
    split
    · split
      · split
        · split
          · exact .three h3 ‹_› ‹_›
          · rename_i hc
            exact .second (by omega) ‹_› (by simpa using hc)
        · exact .second (by omega) ‹_› (by simp)
      · rename_i hb
        exact .first (by omega) (by simpa using hb)
    · exact .first (by omega) (by simp)
  rename_i h3
  have h3 : ¬ (0xE0 ≤ a.toNat ∧ a.toNat ≤ 0xEF) := fun h => h3 (inRange_iff.2 h)
  split
  · rename_i h4
    have h4 : 0xF0 ≤ a.toNat ∧ a.toNat ≤ 0xF4 := inRange_iff.1 h4
    split
    · split
      · split
        · split
          · split
            · split
              · exact .four h4 ‹_› ‹_› ‹_›
              · rename_i hd
                exact .third h4 ‹_› ‹_› (by simpa using hd)
            · exact .third h4 ‹_› ‹_› (by simp)
          · rename_i hc
            exact .second (by omega) ‹_› (by simpa using hc)
        · exact .second (by omega) ‹_› (by simp)
      · rename_i hb
        exact .first (by omega) (by simpa using hb)
    · exact .first (by omega) (by simp)
  · rename_i h4
    have h4 : ¬ (0xF0 ≤ a.toNat ∧ a.toNat ≤ 0xF4) := fun h => h4 (inRange_iff.2 h)
    exact .stray (by omega)

/-- Where a character is read off, its form stands. -/
theorem eq_of_head_char (h : head a rest = .char ch r) : a :: rest = encodeChar ch ++ r := by
  have hv := head_view a rest
  rw [h] at hv
  cases hv with
  | one ha =>
    rw [encodeChar, toNat_ofNat (by omega), if_pos ha, toUInt8_of_toNat rfl]
    rfl
  | @two b _ ha hb =>
    rw [isSecond_iff] at hb
    have hn := toNat_ofNat (n := a.toNat % 32 * 64 + low b) (by unfold low; omega)
    rw [encodeChar, hn, low]
    rw [if_neg (by omega), if_pos (by omega), toUInt8_of_toNat (a := a) (by omega),
      toUInt8_of_toNat (a := b) (by omega)]
    rfl
  | @three b c _ ha hb hc =>
    rw [isSecond_iff] at hb
    rw [isTail_iff] at hc
    have hn := toNat_ofNat (n := a.toNat % 16 * 4096 + low b * 64 + low c) (by
      unfold low
      omega)
    rw [encodeChar, hn, low, low]
    rw [if_neg (by omega), if_neg (by omega), if_pos (by omega),
      toUInt8_of_toNat (a := a) (by omega), toUInt8_of_toNat (a := b) (by omega),
      toUInt8_of_toNat (a := c) (by omega)]
    rfl
  | @four b c d _ ha hb hc hd =>
    rw [isSecond_iff] at hb
    rw [isTail_iff] at hc hd
    have hn := toNat_ofNat (n := a.toNat % 8 * 262144 + low b * 4096 + low c * 64 + low d) (by
      unfold low
      omega)
    rw [encodeChar, hn, low, low, low]
    rw [if_neg (by omega), if_neg (by omega), if_neg (by omega),
      toUInt8_of_toNat (a := a) (by omega), toUInt8_of_toNat (a := b) (by omega),
      toUInt8_of_toNat (a := c) (by omega), toUInt8_of_toNat (a := d) (by omega)]
    rfl

/-! ## Starts of characters -/

/-- The bytes that some character's form starts with. -/
def IsStart (part : Bytes) : Prop := part ≠ [] ∧ ∃ ch, part <+: String.utf8EncodeChar ch

namespace IsStart

theorem view {q : Bytes} (h : IsStart (a :: q)) :
    ∃ ch t, q <+: t ∧ View a t (.char ch []) := by
  obtain ⟨-, ch, t, ht⟩ := h
  obtain ⟨a', r, hform, hhead⟩ := head_encodeChar ch []
  rw [List.append_nil, encodeChar_eq, ← ht] at hform
  cases hform
  exact ⟨ch, q ++ t, List.prefix_append q t, hhead ▸ head_view a (q ++ t)⟩

theorem first {q : Bytes} (h : IsStart (a :: q)) :
    ¬ (0x80 ≤ a.toNat ∧ a.toNat < 0xC2 ∨ 0xF4 < a.toNat) := by
  obtain ⟨ch, t, -, hv⟩ := h.view
  cases hv with
  | one ha | two ha | three ha | four ha => omega

theorem second {q : Bytes} (h : IsStart (a :: b :: q)) : isSecond a b = true := by
  obtain ⟨ch, t, hq, hv⟩ := h.view
  cases hv with
  | one ha => exact absurd hq (by simp)
  | two ha hb | three ha hb | four ha hb =>
    rw [List.cons_prefix_cons] at hq
    exact hq.1 ▸ hb

theorem third {q : Bytes} (h : IsStart (a :: b :: c :: q)) : isTail c = true := by
  obtain ⟨ch, t, hq, hv⟩ := h.view
  cases hv with
  | one ha | two ha hb => exact absurd hq (by simp)
  | three ha hb hc | four ha hb hc =>
    simp only [List.cons_prefix_cons] at hq
    exact hq.2.1 ▸ hc

theorem fourth {q : Bytes} (h : IsStart (a :: b :: c :: d :: q)) : isTail d = true := by
  obtain ⟨ch, t, hq, hv⟩ := h.view
  cases hv with
  | one ha | two ha hb | three ha hb hc => exact absurd hq (by simp)
  | four ha hb hc hd =>
    simp only [List.cons_prefix_cons] at hq
    exact hq.2.2.1 ▸ hd

/-- What is left of a form is a start. -/
theorem of_head {q : Bytes} (hq : q ≠ []) (h : head a rest = .char ch []) (ht : q <+: a :: rest) :
    IsStart q := by
  refine ⟨hq, ch, ?_⟩
  rwa [eq_of_head_char h, List.append_nil, encodeChar_eq] at ht

end IsStart

/-! ## Parts that are no character -/

/-- No character's form stands in front, and `part` is the longest start of one that does, or a
single byte if none does. -/
structure IsInvalid (part rest : Bytes) : Prop where
  noChar (ch : Char) : ¬ String.utf8EncodeChar ch <+: part ++ rest
  startOrByte : IsStart part ∨ part.length = 1
  longest (q : Bytes) : q <+: part ++ rest → IsStart q → q.length ≤ part.length

theorem head_char_of_prefix (h : String.utf8EncodeChar ch <+: a :: rest) :
    ∃ r, head a rest = .char ch r := by
  obtain ⟨r, hr⟩ := h
  obtain ⟨a', rest', hform, hhead⟩ := head_encodeChar ch r
  rw [encodeChar_eq, hr] at hform
  cases hform
  exact ⟨r, hhead⟩

/-- What stands in front is no longer than `part` if it does not go one byte beyond it. -/
theorem length_le_of_prefix {q : Bytes} (hq : q <+: part ++ rest)
    (hn : ∀ b r q', rest = b :: r → q ≠ part ++ b :: q') : q.length ≤ part.length := by
  refine Nat.le_of_not_lt fun hlong => ?_
  have hpart : part <+: q :=
    List.prefix_of_prefix_length_le (List.prefix_append part rest) hq (by omega)
  obtain ⟨q', rfl⟩ := hpart
  cases q' with
  | nil => simp at hlong
  | cons b q' =>
    obtain ⟨r, hr⟩ := (List.prefix_append_right_inj part).1 hq
    exact hn b (q' ++ r) q' hr.symm rfl

theorem isTail_least : isTail 0x80 = true := by decide

/-- What is read as no character is the longest start of one, or a single byte. -/
theorem invalid_of_head (h : head a rest = .broken r) :
    ∃ part, a :: rest = part ++ r ∧ IsInvalid part r := by
  have hv := head_view a rest
  rw [h] at hv
  have hnoChar (ch : Char) : ¬ String.utf8EncodeChar ch <+: a :: rest := by
    intro hpre
    obtain ⟨r', hr'⟩ := head_char_of_prefix hpre
    cases h.symm.trans hr'
  cases hv with
  | stray ha =>
    refine ⟨[a], rfl, hnoChar, .inr rfl, fun q hq hs => ?_⟩
    cases q with
    | nil => exact absurd rfl hs.1
    | cons x q =>
      obtain ⟨rfl, -⟩ := List.cons_prefix_cons.1 hq
      exact absurd ha hs.first
  | first ha hn =>
    refine ⟨[a], rfl, hnoChar, .inr rfl, fun q hq hs => length_le_of_prefix hq ?_⟩
    rintro b r q' rfl rfl
    exact absurd hs.second (by simp [hn b (by simp)])
  | @second b _ ha hb hn =>
    have hstart : IsStart [a, b] := by
      -- any tail bytes make a whole character of it
      by_cases h3 : a.toNat ≤ 0xEF
      · exact .of_head (by simp) (head_three ⟨ha.1, h3⟩ hb isTail_least)
          (List.prefix_append [a, b] [0x80])
      · exact .of_head (by simp) (head_four ⟨by omega, ha.2⟩ hb isTail_least isTail_least)
          (List.prefix_append [a, b] [0x80, 0x80])
    refine ⟨[a, b], rfl, hnoChar, .inl hstart, fun q hq hs => length_le_of_prefix hq ?_⟩
    rintro c r q' rfl rfl
    exact absurd hs.third (by simp [hn c (by simp)])
  | @third b c _ ha hb hc hn =>
    have hstart : IsStart [a, b, c] :=
      .of_head (by simp) (head_four ha hb hc isTail_least) (List.prefix_append [a, b, c] [0x80])
    refine ⟨[a, b, c], rfl, hnoChar, .inl hstart, fun q hq hs => length_le_of_prefix hq ?_⟩
    rintro d r q' rfl rfl
    exact absurd hs.fourth (by simp [hn d (by simp)])

namespace IsInvalid

theorem length_pos (h : IsInvalid part rest) : 0 < part.length := by
  rcases h.startOrByte with hs | hone
  · exact List.length_pos_iff.2 hs.1
  · omega

theorem length_le {part' rest' : Bytes} (h : IsInvalid part rest) (h' : IsInvalid part' rest')
    (he : part ++ rest = part' ++ rest') : part.length ≤ part'.length := by
  rcases h.startOrByte with hs | hone
  · exact h'.longest part (he ▸ List.prefix_append part rest) hs
  · have := h'.length_pos
    omega

/-- The bytes from where it begins tell how long an invalid part is. -/
theorem head_eq (h : IsInvalid part rest) (hp : part ++ rest = a :: r) :
    head a r = .broken rest := by
  cases hhead : head a r with
  | char ch r' =>
    have hform := eq_of_head_char hhead
    rw [encodeChar_eq] at hform
    exact absurd ⟨r', hform.symm.trans hp.symm⟩ (h.noChar ch)
  | broken r' =>
    obtain ⟨part', hp', h'⟩ := invalid_of_head hhead
    have he : part' ++ r' = part ++ rest := hp'.symm.trans hp.symm
    have hlength : part'.length = part.length :=
      Nat.le_antisymm (h'.length_le h he) (h.length_le h' he.symm)
    rw [(List.append_inj he hlength).2]

end IsInvalid

/-! ## All bytes -/

/-- What bytes are read as: a character for each of its forms, and U+FFFD for each invalid part. -/
inductive Reads : Bytes → List Char → Prop where
  | nil : Reads [] []
  | char (ch : Char) {rest : Bytes} {cs : List Char} (h : Reads rest cs) :
      Reads (String.utf8EncodeChar ch ++ rest) (ch :: cs)
  | invalid {part rest : Bytes} {cs : List Char} (hp : IsInvalid part rest) (h : Reads rest cs) :
      Reads (part ++ rest) ('\uFFFD' :: cs)

theorem decodeLossyChars_cons (a : UInt8) (rest : Bytes) : decodeLossyChars (a :: rest) =
    match head a rest with
    | .char ch r => ch :: decodeLossyChars r
    | .broken r => '\uFFFD' :: decodeLossyChars r := by
  rw [decodeLossyChars]
  split <;> simp_all

theorem reads_decodeLossyChars (bs : Bytes) : Reads bs (decodeLossyChars bs) := by
  induction bs using decodeLossyChars.induct with
  | case1 =>
    rw [decodeLossyChars]
    exact .nil
  | case2 a rest _ ch r _ hhead ih =>
    rw [decodeLossyChars_cons, hhead, eq_of_head_char hhead, encodeChar_eq]
    exact .char ch ih
  | case3 a rest _ r _ hhead ih =>
    obtain ⟨part, hpart, hinvalid⟩ := invalid_of_head hhead
    rw [decodeLossyChars_cons, hhead, hpart]
    exact .invalid hinvalid ih

theorem Reads.eq_decodeLossyChars (h : Reads bs cs) : decodeLossyChars bs = cs := by
  induction h with
  | nil => rw [decodeLossyChars]
  | char ch h ih =>
    rename_i rest cs
    obtain ⟨a, r, hform, hhead⟩ := head_encodeChar ch rest
    rw [← encodeChar_eq, hform, decodeLossyChars_cons, hhead]
    exact congrArg (ch :: ·) ih
  | invalid hp h ih =>
    rename_i part rest cs
    cases hbytes : part ++ rest with
    | nil =>
      have hpos := hp.length_pos
      rw [(List.append_eq_nil_iff.1 hbytes).1] at hpos
      cases hpos
    | cons a r =>
      rw [decodeLossyChars_cons, hp.head_eq hbytes]
      exact congrArg ('\uFFFD' :: ·) ih

/-- Bytes are read in one way, which is the way they are decoded. -/
theorem reads_iff : Reads bs cs ↔ decodeLossyChars bs = cs :=
  ⟨Reads.eq_decodeLossyChars, fun h => h ▸ reads_decodeLossyChars bs⟩

theorem decodeChars?_cons (a : UInt8) (rest : Bytes) : decodeChars? (a :: rest) =
    match head a rest with
    | .char c r => (decodeChars? r).map (c :: ·)
    | .broken _ => none := by
  rw [decodeChars?]
  split <;> simp_all

/-- Strict reading takes the forms of characters for what they are. -/
theorem decodeChars?_flatMap (cs : List Char) :
    decodeChars? (cs.flatMap encodeChar) = some cs := by
  induction cs with
  | nil => rw [List.flatMap_nil, decodeChars?]
  | cons ch cs ih =>
    obtain ⟨a, r, hform, hhead⟩ := head_encodeChar ch (cs.flatMap encodeChar)
    rw [List.flatMap_cons, hform, decodeChars?_cons, hhead]
    dsimp only
    rw [ih, Option.map_some]

theorem reads_flatMap (cs : List Char) : Reads (cs.flatMap String.utf8EncodeChar) cs := by
  induction cs with
  | nil => exact .nil
  | cons ch cs ih =>
    rw [List.flatMap_cons]
    exact .char ch ih

theorem toUTF8_eq_flatMap (s : String) :
    s.toUTF8.data.toList = s.toList.flatMap String.utf8EncodeChar := by
  have hbytes : s.toUTF8 = s.toList.utf8Encode := String.utf8Encode_toList.symm
  rw [hbytes, List.utf8Encode, List.data_toByteArray, List.toList_toArray]

theorem flatMap_encodeChar (s : String) : s.toList.flatMap encodeChar = s.toUTF8.data.toList := by
  rw [toUTF8_eq_flatMap, funext encodeChar_eq]

theorem reads_toUTF8 (s : String) : Reads s.toUTF8.data.toList s.toList := by
  rw [toUTF8_eq_flatMap]
  exact reads_flatMap s.toList

theorem length_le_length_flatMap (cs : List Char) :
    cs.length ≤ (cs.flatMap String.utf8EncodeChar).length := by
  induction cs with
  | nil => exact Nat.le_refl 0
  | cons ch cs ih =>
    have hpos := ch.utf8Size_pos
    rw [List.flatMap_cons, List.length_append, String.length_utf8EncodeChar, List.length_cons]
    omega

theorem length_toList_le (s : String) : s.toList.length ≤ s.utf8ByteSize := by
  have hsize : s.utf8ByteSize = s.toUTF8.data.toList.length := rfl
  rw [hsize, toUTF8_eq_flatMap]
  exact length_le_length_flatMap s.toList

end EndpointClient.Utf8
