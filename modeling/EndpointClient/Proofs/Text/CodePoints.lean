import EndpointClient.Text.CodePoints

/-!
# EndpointClient.Proofs.Text.CodePoints

What is found in a table over code points, and how to look through one as it is written.

* `floorEntry?_mem`: the search finds an entry of the table that does not start behind the number
  looked for. So nothing is found in front of the first entry (`Table.entry?_of_lt`).
* `Written P lines`: each word of the lines is one that `P` holds of, line by line.
  `Table.forall_read`: so it is for all entries of the table.
-/

namespace EndpointClient.Text

variable {β : Type}

theorem floorEntry?_mem {a : Array (Nat × β)} {n lo hi : Nat} {best : Option (Nat × β)}
    {e : Nat × β} (h : floorEntry? a n lo hi best = some e) :
    best = some e ∨ e ∈ a ∧ e.1 ≤ n := by
  fun_induction floorEntry? a n lo hi best with
  | case1 => exact .inl h
  | case2 lo hi best hlt mid e' hmid hle ih =>
    rcases ih h with hbest | hmem
    · cases hbest
      exact .inr ⟨Array.mem_of_getElem? hmid, hle⟩
    · exact .inr hmem
  | case3 lo hi best hlt mid e' hmid hle ih => exact ih h
  | case4 => exact .inl h

theorem floorEntry?_of_lt {a : Array (Nat × β)} {n : Nat} (h : ∀ e ∈ a, n < e.1) (hi : Nat) :
    floorEntry? a n 0 hi none = none := by
  cases hf : floorEntry? a n 0 hi none with
  | none => rfl
  | some e =>
    rcases floorEntry?_mem hf with hnone | ⟨hmem, hle⟩
    · cases hnone
    · exact absurd (h e hmem) (Nat.not_lt.2 hle)

/-- Lines of words each of which is one of a kind. A line is given by its characters. -/
inductive Written (P : List Char → Prop) : List String → Prop where
  | nil : Written P []
  | cons {cs : List Char} {line : String} {rest : List String} (hline : line = String.ofList cs)
      (hw : ∀ w ∈ words cs, P w) (h : Written P rest) : Written P (line :: rest)

theorem Written.forall_mem {P : List Char → Prop} {lines : List String} (h : Written P lines) :
    ∀ line ∈ lines, ∀ w ∈ words line.toList, P w := by
  induction h with
  | nil =>
    intro line hline
    cases hline
  | cons hline hw _ ih =>
    intro line' hmem
    rcases List.mem_cons.1 hmem with rfl | hmem
    · rwa [hline, String.toList_ofList]
    · exact ih line' hmem

namespace Table

theorem forall_read {P : Nat × Nat × List Char → Prop} {lines : List String}
    (h : Written (fun w => P (readEntry w)) lines) : ∀ e ∈ read lines, P e := by
  intro e he
  rw [read, List.mem_toArray, List.mem_flatMap] at he
  obtain ⟨line, hline, he⟩ := he
  obtain ⟨w, hw, rfl⟩ := List.mem_map.1 he
  exact h.forall_mem line hline w hw

theorem entry?_of_lt {t : Table} {n : Nat} (h : ∀ e ∈ t, n < e.1) : t.entry? n = none := by
  unfold entry?
  rw [floorEntry?_of_lt h]

theorem mem_of_entry? {t : Table} {n : Nat} {e : Nat × Nat × List Char} (h : t.entry? n = some e) :
    e ∈ t ∧ e.1 ≤ n := by
  unfold entry? at h
  split at h
  · rename_i lo hi word hf
    split at h
    · cases h
      rcases floorEntry?_mem hf with hnone | hmem
      · cases hnone
      · exact hmem
    · cases h
  · cases h

theorem wordOr_cases (t : Table) (n : Nat) (default : String) : t.wordOr n default = default ∨
    ∃ e ∈ t, e.1 ≤ n ∧ t.wordOr n default = String.ofList (e.2.2.drop 1) := by
  unfold wordOr find?
  cases he : t.entry? n with
  | none => exact .inl rfl
  | some e =>
    obtain ⟨hmem, hle⟩ := mem_of_entry? he
    obtain ⟨lo, hi, word⟩ := e
    cases word with
    | nil => exact .inl rfl
    | cons sign w => exact .inr ⟨_, hmem, hle, rfl⟩

end Table

end EndpointClient.Text
