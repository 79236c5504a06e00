/-!
# EndpointClient.Text.Decimal

Numbers written in tens.

* `natText` writes a natural number, `padded` with leading zeros up to a width.
* `digitsNumber` is the number a run of digits stands for, `readInt?` reads a whole text as an
  integer with or without a sign. `digitsNumber_natText`: what is written is read again.
* `fractionText` writes a part of a unit without trailing zeros: `.5` for 500 of 1000.
-/

namespace EndpointClient.Text

def natText (n : Nat) : List Char := Nat.toDigits 10 n

theorem natText_ne_nil (n : Nat) : natText n ≠ [] := Nat.toDigits_ne_nil

theorem isDigit_of_mem_natText {c : Char} {n : Nat} (h : c ∈ natText n) : c.isDigit = true :=
  Nat.isDigit_of_mem_toDigits (by omega) (by omega) h

/-- An integer in decimal digits, with a minus sign if it is negative. -/
def intText (n : Int) : List Char :=
  if n < 0 then '-' :: natText n.natAbs else natText n.natAbs

def padded (width n : Nat) : List Char :=
  let d := natText n
  List.replicate (width - d.length) '0' ++ d

theorem exists_of_isDigit {c : Char} (h : c.isDigit = true) :
    ∃ k, k < 10 ∧ c = Char.ofNat (48 + k) := by
  simp only [Char.isDigit, Bool.and_eq_true, decide_eq_true_eq, ge_iff_le] at h
  have h1 : 48 ≤ c.toNat := UInt32.le_iff_toNat_le.1 h.1
  have h2 : c.toNat ≤ 57 := UInt32.le_iff_toNat_le.1 h.2
  refine ⟨c.toNat - 48, by omega, ?_⟩
  rw [show 48 + (c.toNat - 48) = c.toNat by omega, Char.ofNat_toNat]

def digitValue (c : Char) : Nat := c.toNat - 48

/-- The number that a run of decimal digits stands for. -/
def digitsNumber (ds : List Char) : Nat := ds.foldl (fun n c => n * 10 + digitValue c) 0

theorem digitsNumber_natText (n : Nat) : digitsNumber (natText n) = n := by
  have hstep : (fun (n : Nat) c => n * 10 + digitValue c) =
      fun sofar c => 10 * sofar + (c.toNat - '0'.toNat) := by
    funext n c
    rw [Nat.mul_comm]
    rfl
  unfold digitsNumber natText
  rw [hstep]
  exact Nat.ofDigitChars_ten_toDigits

/-- Reads a run of digits with at least one of them. -/
def readNat? (cs : List Char) : Option Nat :=
  if !cs.isEmpty && cs.all Char.isDigit then some (digitsNumber cs) else none

/-- Reads an integer: digits, with a sign before them or none. -/
def readInt? : List Char → Option Int
  | '-' :: ds => (readNat? ds).map fun n => -(n : Int)
  | '+' :: ds => (readNat? ds).map Int.ofNat
  | ds => (readNat? ds).map Int.ofNat

def tenTo (n : Nat) : Nat := Nat.pow 10 n

def dropTrailingZeros (ds : List Char) : List Char := (ds.reverse.dropWhile (· == '0')).reverse

/-- `part` of a unit of `10 ^ width`, as a point and digits without trailing zeros, or nothing. -/
def fractionText (width part : Nat) : List Char :=
  match dropTrailingZeros (padded width part) with
  | [] => []
  | ds => '.' :: ds

end EndpointClient.Text
