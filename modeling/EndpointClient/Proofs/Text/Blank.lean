import EndpointClient.Text.Blank

/-!
# EndpointClient.Proofs.Text.Blank

What trimming leaves of a text.

* `Trims s core`: `core` stands in `s` between blanks, and has none at its own ends.
* `trims_iff`: that is so of one part of a text, which is the one that `trim` leaves.
* `Trims.padded`: more blanks at its ends do not change that.
-/

namespace EndpointClient.Text

variable {s core before after : List Char}

theorem isBlankText_append (hbefore : isBlankText before = true)
    (hafter : isBlankText after = true) : isBlankText (before ++ after) = true := by
  rw [isBlankText, List.all_append, Bool.and_eq_true]
  exact ⟨hbefore, hafter⟩

theorem isBlankText_reverse : isBlankText s.reverse = isBlankText s := List.all_reverse

/-! ## One end -/

theorem trimLeft_append (h : isBlankText before = true) (s : List Char) :
    trimLeft (before ++ s) = trimLeft s :=
  List.dropWhile_append_of_pos (List.all_eq_true.1 h)

theorem trimLeft_eq_self (h : ∀ c ∈ s.head?, isBlank c = false) : trimLeft s = s := by
  cases s with
  | nil => rfl
  | cons c r => rw [trimLeft, List.dropWhile_cons_of_neg (by simp [h c rfl])]

theorem head_trimLeft (s : List Char) : ∀ c ∈ (trimLeft s).head?, isBlank c = false := by
  intro c hc
  have hhead := List.head?_dropWhile_not isBlank s
  rwa [← trimLeft, Option.mem_def.1 hc] at hhead

theorem exists_append_trimLeft (s : List Char) :
    ∃ before, isBlankText before = true ∧ s = before ++ trimLeft s :=
  ⟨s.takeWhile isBlank, List.all_takeWhile, List.takeWhile_append_dropWhile.symm⟩

theorem trimRight_append (s : List Char) (h : isBlankText after = true) :
    trimRight (s ++ after) = trimRight s := by
  rw [trimRight, List.reverse_append, trimLeft_append (isBlankText_reverse.trans h), trimRight]

theorem trimRight_eq_self (h : ∀ c ∈ s.getLast?, isBlank c = false) : trimRight s = s := by
  rw [← List.head?_reverse] at h
  rw [trimRight, trimLeft_eq_self h, List.reverse_reverse]

theorem getLast_trimRight (s : List Char) : ∀ c ∈ (trimRight s).getLast?, isBlank c = false := by
  rw [trimRight, List.getLast?_reverse]
  exact head_trimLeft s.reverse

theorem exists_trimRight_append (s : List Char) :
    ∃ after, isBlankText after = true ∧ s = trimRight s ++ after := by
  obtain ⟨before, hblank, hs⟩ := exists_append_trimLeft s.reverse
  refine ⟨before.reverse, isBlankText_reverse.trans hblank, ?_⟩
  rw [trimRight, ← List.reverse_append, ← hs, List.reverse_reverse]

/-! ## Both ends -/

/-- A text stands in another one between blanks, and has no blank at either end itself. -/
structure Trims (s core : List Char) : Prop where
  ends : ∃ before after, isBlankText before = true ∧ isBlankText after = true ∧
    s = before ++ core ++ after
  first : ∀ c ∈ core.head?, isBlank c = false
  last : ∀ c ∈ core.getLast?, isBlank c = false

theorem trims_trim (s : List Char) : Trims s (trim s) := by
  obtain ⟨before, hbefore, hs⟩ := exists_append_trimLeft s
  obtain ⟨after, hafter, hleft⟩ := exists_trimRight_append (trimLeft s)
  refine ⟨⟨before, after, hbefore, hafter, ?_⟩, fun c hc => ?_, getLast_trimRight (trimLeft s)⟩
  · rw [List.append_assoc, trim, ← hleft, ← hs]
  · refine head_trimLeft s c ?_
    rw [hleft, List.head?_append, ← trim, Option.mem_def.1 hc]
    rfl

namespace Trims

theorem trim_eq (h : Trims s core) : trim s = core := by
  obtain ⟨before, after, hbefore, hafter, rfl⟩ := h.ends
  rw [trim, List.append_assoc, trimLeft_append hbefore]
  cases core with
  | nil =>
    -- of blanks alone nothing is left on the right, for they are gone on the left
    rw [List.nil_append, trimLeft_eq_nil_iff.2 hafter]
    rfl
  | cons c r =>
    have hleft : trimLeft (c :: r ++ after) = c :: r ++ after := trimLeft_eq_self h.first
    rw [hleft, trimRight_append _ hafter, trimRight_eq_self h.last]

theorem padded (h : Trims s core) (hbefore : isBlankText before = true)
    (hafter : isBlankText after = true) : Trims (before ++ s ++ after) core := by
  obtain ⟨before', after', hbefore', hafter', rfl⟩ := h.ends
  refine ⟨⟨before ++ before', after' ++ after, isBlankText_append hbefore hbefore',
    isBlankText_append hafter' hafter, ?_⟩, h.first, h.last⟩
  simp only [List.append_assoc]

theorem length_le (h : Trims s core) : core.length ≤ s.length := by
  obtain ⟨before, after, -, -, rfl⟩ := h.ends
  simp only [List.length_append]
  omega

/-- What is left of a text stays when it is trimmed again. -/
theorem self (h : Trims s core) : Trims core core :=
  ⟨⟨[], [], rfl, rfl, by rw [List.nil_append, List.append_nil]⟩, h.first, h.last⟩

theorem of_no_blank (h : ∀ c ∈ s, isBlank c = false) : Trims s s :=
  ⟨⟨[], [], rfl, rfl, by rw [List.nil_append, List.append_nil]⟩,
    fun c hc => h c (List.mem_of_mem_head? hc), fun c hc => h c (List.mem_of_mem_getLast? hc)⟩

end Trims

theorem trims_iff : Trims s core ↔ trim s = core :=
  ⟨Trims.trim_eq, fun h => h ▸ trims_trim s⟩

end EndpointClient.Text
