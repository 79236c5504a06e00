/-!
# EndpointClient.Text.Letter

Letters of ASCII in upper and lower case.

* `exists_of_isUpper` counts the letters in upper case, `toLower_eq_self` says that all else stays
  as it is in lower case, `eq_of_toLower_eq` that nothing else comes to it, `toLower_toLower` that
  twice is once.
-/

namespace EndpointClient.Text

theorem exists_of_isUpper {c : Char} (h : c.isUpper = true) :
    ∃ k, k < 26 ∧ c = Char.ofNat (65 + k) := by
  have hv : c.val ≥ 'A'.val ∧ c.val ≤ 'Z'.val := of_decide_eq_true h
  have h1 : 65 ≤ c.toNat := UInt32.le_iff_toNat_le.1 hv.1
  have h2 : c.toNat ≤ 90 := UInt32.le_iff_toNat_le.1 hv.2
  refine ⟨c.toNat - 65, by omega, ?_⟩
  rw [show 65 + (c.toNat - 65) = c.toNat by omega]
  exact (Char.ofNat_toNat c).symm

theorem toLower_eq_self {c : Char} (h : ¬ c.isUpper = true) : c.toLower = c :=
  dif_neg fun hv => h (decide_eq_true hv)

/-- What is no letter is in lower case what it was. -/
theorem eq_of_toLower_eq {c d : Char} (h : c.toLower = d) (hd : d.isLower = false) : c = d := by
  by_cases hc : c.isUpper = true
  · obtain ⟨k, hk, rfl⟩ := exists_of_isUpper hc
    subst h
    clear hc
    revert k
    decide
  · rwa [toLower_eq_self hc] at h

theorem toLower_toLower (c : Char) : c.toLower.toLower = c.toLower := by
  by_cases h : c.isUpper = true
  · obtain ⟨k, hk, rfl⟩ := exists_of_isUpper h
    clear h
    revert k
    decide
  · rw [toLower_eq_self h, toLower_eq_self h]

theorem map_toLower_toLower (cs : List Char) :
    (cs.map Char.toLower).map Char.toLower = cs.map Char.toLower := by
  rw [List.map_map]
  exact List.map_congr_left fun c _ => toLower_toLower c

end EndpointClient.Text
