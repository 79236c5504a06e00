import EndpointClient.Proofs.Text.CodePoints
import EndpointClient.Text.Normalization

/-!
# EndpointClient.Proofs.Text.Normalization

Characters that normalization leaves alone.

* `Spared k`: the table of decompositions says nothing of the code point `k`, neither on its left nor
  on its right. `spared_at`: so it is with `@`.
* `decompose_of_whole`, `composePair?_spared_left`, `composePair?_spared_right`: such a code point
  falls into no parts, and is put together with no other one.
* `mem_normalize`: so it is still there after normalization. `normalize_of_ascii`: text in ASCII
  is left alone as a whole.
-/

namespace EndpointClient.Text

/-- The table of decompositions says nothing of a code point. No part is too large for a pair. -/
def Spared (k : Nat) : Prop :=
  ∀ e ∈ decompositions, k < e.1 ∧ ∀ n ∈ pointed (e.2.2.drop 1), n < 0x200000 ∧ n ≠ k

set_option maxRecDepth 10000 in
theorem spared_at : Spared '@'.toNat := by
  unfold Spared decompositions
  apply Table.forall_read
  -- one line of the table at a time
  repeat refine .cons rfl (by decide +kernel) ?_
  exact .nil

variable {k n : Nat}

/-! ## Parts -/

theorem parts?_of_spared (h : Spared k) : parts? k = none := by
  rw [parts?, Table.find?, Table.entry?_of_lt fun e he => (h e he).1, Option.map_none,
    Option.map_none]

theorem lt_of_parts? (h : Spared k) (n : Nat) (ns : List Nat) (hn : parts? n = some ns) :
    ∀ m ∈ ns, m < 0x200000 := by
  obtain ⟨w, hw, rfl⟩ := Option.map_eq_some_iff.1 hn
  obtain ⟨e, he, rfl⟩ := Option.map_eq_some_iff.1 hw
  intro m hm
  exact ((h e (Table.mem_of_entry? he).1).2 m hm).1

theorem decomposeSyllable?_of_lt (hk : k < 0xAC00) : decomposeSyllable? k = none := by
  rw [decomposeSyllable?, if_neg]
  simp only [Bool.and_eq_true, decide_eq_true_eq]
  omega

theorem lt_of_decomposeSyllable? {ns : List Nat} (h : decomposeSyllable? n = some ns) :
    ∀ m ∈ ns, m < 0x200000 := by
  unfold decomposeSyllable? at h
  split at h
  · rename_i hrange
    simp only [Bool.and_eq_true, decide_eq_true_eq] at hrange
    cases h
    intro m hm
    simp only [List.cons_append, List.nil_append, List.mem_cons] at hm
    rcases hm with rfl | rfl | hm
    · omega
    · omega
    · split at hm
      · cases hm
      · rw [List.mem_singleton.1 hm]
        omega
  · cases h

/-! The table of parts is a variable here, so that nothing looks into the real one. -/

theorem decompose_of_whole {table : Nat → Option (List Nat)} (h : table k = none)
    (hk : k < 0xAC00) (bound : Nat) : decompose table bound k = [k] := by
  cases bound with
  | zero => rfl
  | succ bound => simp only [decompose, decomposeSyllable?_of_lt hk, h]

theorem decompose_lt {table : Nat → Option (List Nat)}
    (h : ∀ n ns, table n = some ns → ∀ m ∈ ns, m < 0x200000) (hn : n < 0x200000) (bound : Nat) :
    ∀ m ∈ decompose table bound n, m < 0x200000 := by
  induction bound generalizing n with
  | zero =>
    intro m hm
    rw [List.mem_singleton.1 hm]
    exact hn
  | succ bound ih =>
    intro m hm
    unfold decompose at hm
    split at hm
    · rename_i ns hsyllable
      exact lt_of_decomposeSyllable? hsyllable m hm
    · split at hm
      · rename_i ns hparts
        obtain ⟨p, hp, hm⟩ := List.mem_flatMap.1 hm
        exact ih (h n ns hparts p hp) m hm
      · rw [List.mem_singleton.1 hm]
        exact hn

/-! ## Pairs -/

theorem mem_compositions {e : Nat × Nat} (he : e ∈ compositions) :
    ∃ d ∈ decompositions, ∃ a b, pointed (d.2.2.drop 1) = [a, b] ∧ e.1 = pairKey a b := by
  unfold compositions at he
  rw [List.mem_toArray, List.mem_mergeSort, List.mem_filterMap] at he
  obtain ⟨⟨lo, hi, word⟩, hd, he⟩ := he
  refine ⟨(lo, hi, word), Array.mem_toList_iff.1 hd, ?_⟩
  cases word with
  | nil => cases he
  | cons mark r =>
    by_cases hmark : mark = '>'
    · subst hmark
      rcases hparts : pointed r with _ | ⟨a, _ | ⟨b, _ | _⟩⟩
      · simp [hparts] at he
      · simp [hparts] at he
      · simp only [hparts, Option.some.injEq] at he
        exact ⟨a, b, hparts, by rw [← he]⟩
      · simp [hparts] at he
    · simp [hmark] at he

/-- Two code points that are put together, none of them of the Korean script, are the parts of an
entry. -/
theorem mem_of_composePair? {a b p : Nat} (h : composePair? a b = some p)
    (hab : a < 0x1100 ∨ b < 0x1161) : ∃ d ∈ decompositions, ∃ a' b',
      pointed (d.2.2.drop 1) = [a', b'] ∧ pairKey a b = pairKey a' b' := by
  unfold composePair? at h
  split at h
  · rename_i hrange
    simp only [Bool.and_eq_true, decide_eq_true_eq] at hrange
    omega
  · split at h
    · rename_i hrange
      simp only [Bool.and_eq_true, decide_eq_true_eq] at hrange
      omega
    · obtain ⟨e, he, h⟩ := Option.bind_eq_some_iff.1 h
      rw [Option.ite_none_right_eq_some] at h
      rcases floorEntry?_mem he with hnone | ⟨hmem, -⟩
      · cases hnone
      · obtain ⟨d, hd, a', b', hparts, hkey⟩ := mem_compositions hmem
        exact ⟨d, hd, a', b', hparts, h.1.symm.trans hkey⟩

theorem composePair?_spared_left (h : Spared k) (hk : k < 0x1100) (hn : n < 0x200000) :
    composePair? k n = none := by
  cases hp : composePair? k n with
  | none => rfl
  | some p =>
    obtain ⟨d, hd, a, b, hparts, hkey⟩ := mem_of_composePair? hp (.inl hk)
    have hspared := (h d hd).2
    rw [hparts] at hspared
    have ha := hspared a List.mem_cons_self
    have hb := hspared b (List.mem_cons_of_mem a List.mem_cons_self)
    unfold pairKey at hkey
    omega

theorem composePair?_spared_right (h : Spared k) (hk : k < 0x1161) (m : Nat) :
    composePair? m k = none := by
  cases hp : composePair? m k with
  | none => rfl
  | some p =>
    obtain ⟨d, hd, a, b, hparts, hkey⟩ := mem_of_composePair? hp (.inr hk)
    have hspared := (h d hd).2
    rw [hparts] at hspared
    have hb := hspared b (List.mem_cons_of_mem a List.mem_cons_self)
    unfold pairKey at hkey
    omega

/-! ## Normalization -/

theorem mem_insertMark {m : Nat} (ns : List Nat) : m ∈ insertMark n ns ↔ m = n ∨ m ∈ ns := by
  induction ns with
  | nil => simp [insertMark]
  | cons l ns ih =>
    unfold insertMark
    split
    · rw [List.mem_cons, ih, List.mem_cons]
      exact or_left_comm
    · exact List.mem_cons

theorem mem_reorder {m : Nat} (ns : List Nat) : m ∈ reorder ns ↔ m ∈ ns := by
  have hfold (acc : List Nat) :
      m ∈ ns.foldl (fun acc n => insertMark n acc) acc ↔ m ∈ acc ∨ m ∈ ns := by
    induction ns generalizing acc with
    | nil => simp
    | cons n ns ih =>
      rw [List.foldl_cons, ih, mem_insertMark, List.mem_cons, or_comm (a := m = n), or_assoc]
  rw [reorder, List.mem_reverse, hfold]
  simp

theorem Composing.mem_toList {s : Composing} :
    k ∈ s.toList ↔ k ∈ s.marks ∨ s.starter = some k ∨ k ∈ s.finished := by
  simp only [toList, List.mem_reverse, List.mem_append, Option.mem_toList, or_assoc]

/-- A step puts the next code point to the others, or together with the starter. -/
theorem Composing.step_cases (s : Composing) (n : Nat) :
    (∃ m p, s.starter = some m ∧ composePair? m n = some p ∧
      s.step n = { s with starter := some p }) ∨
    ∀ m, m ∈ (s.step n).toList ↔ m = n ∨ m ∈ s.toList := by
  have hkeep : ∀ m, m ∈ (if combiningClass n = 0 then
        (⟨s.marks ++ s.starter.toList ++ s.finished, some n, [], 0⟩ : Composing)
      else { s with marks := n :: s.marks, last := combiningClass n }).toList ↔
        m = n ∨ m ∈ s.toList := by
    intro m
    split
    · simp only [mem_toList, List.mem_append, Option.mem_toList, List.not_mem_nil,
        Option.some.injEq, false_or, or_assoc, eq_comm (a := n)]
    · simp only [mem_toList, List.mem_cons, or_assoc]
  unfold Composing.step
  cases hs : s.starter with
  | none =>
    rw [hs] at hkeep
    exact .inr hkeep
  | some m =>
    rw [hs] at hkeep
    dsimp only
    by_cases hmarks : (s.marks.isEmpty || s.last < combiningClass n) = true
    · rw [if_pos hmarks]
      cases hp : composePair? m n with
      | none => exact .inr hkeep
      | some p => exact .inl ⟨m, p, rfl, hp, rfl⟩
    · rw [if_neg hmarks]
      exact .inr hkeep

theorem Composing.mem_step (h : Spared k) (hk : k < 0x1100) (hn : n < 0x200000) {s : Composing}
    (hmem : n = k ∨ k ∈ s.toList) : k ∈ (s.step n).toList := by
  rcases s.step_cases n with ⟨m, p, hs, hp, hstep⟩ | hkept
  · -- the starter that is replaced is not the code point, and neither is the one put to it
    have hmk : m ≠ k := by
      rintro rfl
      cases (composePair?_spared_left h hk hn).symm.trans hp
    have hnk : n ≠ k := by
      rintro rfl
      cases (composePair?_spared_right h (by omega) m).symm.trans hp
    rw [hstep, mem_toList]
    rcases hmem with rfl | hmem
    · exact absurd rfl hnk
    · rw [mem_toList, hs] at hmem
      rcases hmem with hmarks | hstarter | hfinished
      · exact .inl hmarks
      · cases hstarter
        exact absurd rfl hmk
      · exact .inr (.inr hfinished)
  · rw [hkept]
    exact hmem.imp_left Eq.symm

theorem Composing.mem_foldl (h : Spared k) (hk : k < 0x1100) {ns : List Nat}
    (hns : ∀ n ∈ ns, n < 0x200000) {s : Composing} (hmem : k ∈ ns ∨ k ∈ s.toList) :
    k ∈ (ns.foldl Composing.step s).toList := by
  induction ns generalizing s with
  | nil =>
    rcases hmem with hnil | hmem
    · cases hnil
    · exact hmem
  | cons n ns ih =>
    refine ih (fun m hm => hns m (List.mem_cons_of_mem n hm)) ?_
    have hn := hns n List.mem_cons_self
    rcases hmem with hns | hs
    · rcases List.mem_cons.1 hns with rfl | hrest
      · exact .inr (mem_step h hk hn (.inl rfl))
      · exact .inl hrest
    · exact .inr (mem_step h hk hn (.inr hs))

theorem normalize_of_ascii {cs : List Char} (h : ∀ c ∈ cs, c.toNat < 0x80) : normalize cs = cs :=
  if_pos (List.all_eq_true.2 fun c hc => decide_eq_true (h c hc))

/-- A character of which the table says nothing is still there after normalization. -/
theorem mem_normalize {c : Char} (h : Spared c.toNat) (hc : c.toNat < 0x1100) {s : List Char}
    (hs : c ∈ s) : c ∈ normalize s := by
  unfold normalize
  split
  · exact hs
  · have hparts : c.toNat ∈ s.flatMap fun c => decompose parts? 8 c.toNat :=
      List.mem_flatMap.2 ⟨c, hs, by
        rw [decompose_of_whole (parts?_of_spared h) (by omega)]
        exact List.mem_singleton.2 rfl⟩
    have hlt : ∀ n ∈ s.flatMap fun c => decompose parts? 8 c.toNat, n < 0x200000 := by
      intro n hn
      obtain ⟨d, -, hn⟩ := List.mem_flatMap.1 hn
      have hd : d.toNat < 0x200000 := by
        have hvalid := d.valid
        simp only [UInt32.isValidChar, Nat.isValidChar] at hvalid
        have hnat : d.toNat = d.val.toNat := rfl
        omega
      exact decompose_lt (lt_of_parts? h) hd 8 n hn
    refine List.mem_map.2 ⟨c.toNat, ?_, Char.ofNat_toNat c⟩
    refine Composing.mem_foldl h hc (fun n hn => hlt n ((mem_reorder _).1 hn)) (.inl ?_)
    exact (mem_reorder _).2 hparts

end EndpointClient.Text
