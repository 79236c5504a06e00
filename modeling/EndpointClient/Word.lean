/-!
# EndpointClient.Word

The numbers that a machine word of 64 bits holds, without a sign and with one.
-/

namespace EndpointClient.Word

/-- The least number that 64 bits do not hold. -/
def bound : Nat := 18446744073709551616

/-- Whether 64 bits hold a number. -/
def holds (n : Nat) : Bool := n < bound

/-- The least positive number that 64 bits with a sign do not hold. -/
def signedBound : Int := 9223372036854775808

/-- Whether 64 bits with a sign hold a number. -/
def holdsSigned (n : Int) : Bool := -signedBound ≤ n && n < signedBound

theorem signedBound_pos : 0 < signedBound := by decide

theorem holdsSigned_iff (n : Int) : holdsSigned n = true ↔ -signedBound ≤ n ∧ n < signedBound := by
  simp only [holdsSigned, Bool.and_eq_true]
  exact and_congr decide_eq_true_iff decide_eq_true_iff

end EndpointClient.Word
