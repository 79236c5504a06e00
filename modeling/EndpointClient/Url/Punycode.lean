/-!
# EndpointClient.Url.Punycode

Labels of domain names in ASCII: the ASCII characters first, and after a hyphen the others as
differences between code points and places, in digits of base 36 whose thresholds follow the sizes
met before.

* `encode` writes a label so, `decode?` reads it.
-/

namespace EndpointClient.Punycode

/-- The digit of a value below 36: a letter below 26, a decimal digit from there on. -/
def digit (v : Nat) : Char := Char.ofNat (if v < 26 then 97 + v else 22 + v)

/-- The value of a digit, in either case. -/
def digitValue? (c : Char) : Option Nat :=
  if c.isLower then some (c.toNat - 97)
  else if c.isUpper then some (c.toNat - 65)
  else if c.isDigit then some (c.toNat - 22)
  else none

/-- The threshold of the digit at a place, `k` being 36 for the first. -/
def threshold (k bias : Nat) : Nat := min 26 (max 1 (k - bias))

theorem one_le_threshold (k bias : Nat) : 1 ≤ threshold k bias := by
  unfold threshold; omega

theorem threshold_le (k bias : Nat) : threshold k bias ≤ 26 := by
  unfold threshold; omega

/-- How often a difference has to be divided until it is small, and what is left of it. -/
def reduce (delta k : Nat) : Nat × Nat :=
  if 455 < delta then reduce (delta / 35) (k + 36) else (delta, k)
termination_by delta
decreasing_by omega

/-- The bias after a difference, of so many characters, the first of them or not. -/
def adapt (delta count : Nat) (first : Bool) : Nat :=
  let d := delta / (if first then 700 else 2)
  let (d, k) := reduce (d + d / count) 0
  k + 36 * d / (d + 38)

def encodeNumber (bias k q : Nat) : List Char :=
  let t := threshold k bias
  if q < t then [digit q]
  else digit (t + (q - t) % (36 - t)) :: encodeNumber bias (k + 36) ((q - t) / (36 - t))
termination_by q
decreasing_by
  have h := one_le_threshold k bias
  have : (q - threshold k bias) / (36 - threshold k bias) ≤ q - threshold k bias := Nat.div_le_self _ _
  omega

/-- Encoding under way: the digits so far, the difference that is growing, the bias, and how many
characters are written. -/
structure Encoding where
  digits : List Char
  delta : Nat
  bias : Nat
  written : Nat

/-- Looks at one character of the label while the code point `n` is written. -/
def Encoding.look (basic n : Nat) (s : Encoding) (c : Char) : Encoding :=
  if c.toNat < n then { s with delta := s.delta + 1 }
  else if c.toNat = n then
    ⟨s.digits ++ encodeNumber s.bias 36 s.delta, 0,
      adapt s.delta (s.written + 1) (s.written = basic), s.written + 1⟩
  else s

/-- Writes the code points of a label one after the other, each at all its places. -/
def encodeFrom (label : List Char) (basic : Nat) : (next : Nat) → List Nat → Encoding → List Char
  | _, [], s => s.digits
  | next, n :: rest, s =>
    let s := { s with delta := s.delta + (n - next) * (s.written + 1) }
    let s := label.foldl (Encoding.look basic n) s
    encodeFrom label basic (n + 1) rest { s with delta := s.delta + 1 }

/-- The code points of a label that are not ASCII, ascending and each once. -/
def extended (label : List Char) : List Nat :=
  (((label.map Char.toNat).filter (128 ≤ ·)).mergeSort).eraseReps

def encode (label : List Char) : List Char :=
  let basic := label.filter (·.toNat < 128)
  let n := basic.length
  (if n = 0 then [] else basic ++ ['-']) ++ encodeFrom label n 128 (extended label) ⟨[], 0, 72, n⟩

/-- Reads a difference: its value on top of `i`, and the rest. -/
def decodeNumber (bias : Nat) : (k w i : Nat) → List Char → Option (Nat × List Char)
  | _, _, _, [] => none
  | k, w, i, c :: rest =>
    match digitValue? c with
    | none => none
    | some d =>
      let t := threshold k bias
      if d < t then some (i + d * w, rest)
      else decodeNumber bias (k + 36) (w * (36 - t)) (i + d * w) rest

theorem length_decodeNumber {bias : Nat} {l : List Char} :
    ∀ {k w i : Nat} {r : Nat × List Char}, decodeNumber bias k w i l = some r →
      r.2.length < l.length := by
  induction l with
  | nil => intro k w i r h; simp [decodeNumber] at h
  | cons c rest ih =>
    intro k w i r h
    rw [decodeNumber] at h
    split at h
    · simp at h
    · dsimp only at h
      split at h
      · cases h; simp
      · have := ih h
        simp only [List.length_cons]
        omega

/-- Reads differences and puts their characters into place. -/
def decodeFrom (bias n i : Nat) (label : List Char) (cs : List Char) : Option (List Char) :=
  match cs with
  | [] => some label
  | c :: rest =>
    match h : decodeNumber bias 36 1 i (c :: rest) with
    | none => none
    | some (j, rest') =>
      have : rest'.length < (c :: rest).length := length_decodeNumber h
      let count := label.length + 1
      let m := n + j / count
      if m.isValidChar then
        decodeFrom (adapt (j - i) count (i = 0)) m (j % count + 1)
          (label.take (j % count) ++ Char.ofNat m :: label.drop (j % count)) rest'
      else none
termination_by cs.length
decreasing_by exact length_decodeNumber h

/-- The parts of an encoded label: its ASCII characters, and the differences. A hyphen right in
front parts nothing. -/
def split (cs : List Char) : List Char × List Char :=
  match cs.reverse.span (· ≠ '-') with
  | (back, '-' :: front) => if front.isEmpty then ([], cs) else (front.reverse, back.reverse)
  | _ => ([], cs)

def decode? (cs : List Char) : Option (List Char) :=
  let (basic, digits) := split cs
  if basic.all (·.toNat < 128) then decodeFrom 72 128 0 basic digits else none

end EndpointClient.Punycode
