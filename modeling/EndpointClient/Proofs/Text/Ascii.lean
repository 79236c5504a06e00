import EndpointClient.Text.Decimal
import EndpointClient.Text.Letter

/-!
# EndpointClient.Proofs.Text.Ascii

Characters of ASCII.

* `of_ascii`: what is decided for 128 numbers holds of all of them.
* `ascii_of_isAlphanum`: letters and digits are among them.
-/

namespace EndpointClient.Text

theorem of_ascii {P : Char → Prop} (h : ∀ n < 128, P (Char.ofNat n)) {c : Char}
    (hc : c.toNat < 0x80) : P c := by
  rw [← Char.ofNat_toNat c]
  exact h c.toNat hc

theorem ascii_of_isLower {c : Char} (h : c.isLower = true) : c.toNat < 0x80 := by
  have hv : c.val ≤ 'z'.val := of_decide_eq_true ((Bool.and_eq_true _ _).mp h).2
  exact Nat.lt_of_le_of_lt (UInt32.le_iff_toNat_le.1 hv) (by decide)

theorem ascii_of_isDigit {c : Char} (h : c.isDigit = true) : c.toNat < 0x80 := by
  obtain ⟨k, hk, rfl⟩ := exists_of_isDigit h
  clear h
  revert k
  decide

theorem ascii_of_isAlphanum {c : Char} (h : c.isAlphanum = true) : c.toNat < 0x80 := by
  rcases (Bool.or_eq_true _ _).mp h with hletter | hdigit
  · rcases (Bool.or_eq_true _ _).mp hletter with hupper | hlower
    · obtain ⟨k, hk, rfl⟩ := exists_of_isUpper hupper
      clear h hletter hupper
      revert k
      decide
    · exact ascii_of_isLower hlower
  · exact ascii_of_isDigit hdigit

end EndpointClient.Text
