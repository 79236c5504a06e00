/-!
# EndpointClient.Text.CodePoints

Tables over code points, written down as lines of text: entries in ascending order, separated by
blanks, numbers in hexadecimal.

* `Ranges.read` reads a set, such as `300-36F 483`; `Ranges.contains` asks for a member.
* `Table.read` reads a set with a word attached to each range, such as `590-5FF:R`;
  `Table.find?` and `Table.wordOr` ask for the word of a code point.
-/

namespace EndpointClient.Text

/-- The number that a hexadecimal text stands for. Other characters count as zero. -/
def hexNumber (s : List Char) : Nat :=
  s.foldl (fun n c =>
    let d := c.toNat
    n * 16 + (if 48 ≤ d && d ≤ 57 then d - 48 else if 65 ≤ d && d ≤ 70 then d - 55 else 0)) 0

def words (s : List Char) : List (List Char) :=
  (s.foldr (fun c (acc : List Char × List (List Char)) =>
    if c == ' ' then ([], acc.1 :: acc.2) else (c :: acc.1, acc.2)) ([], [])
    |> fun p => p.1 :: p.2).filter (· ≠ [])

/-- A range as it is written, `lo-hi` or `lo`. -/
def readRange (s : List Char) : Nat × Nat :=
  match s.span (· ≠ '-') with
  | (lo, []) => (hexNumber lo, hexNumber lo)
  | (lo, _ :: hi) => (hexNumber lo, hexNumber hi)

/-- The last of the entries that starts at `n` or below, between the indices `lo` and `hi`. -/
def floorEntry? {β : Type} (a : Array (Nat × β)) (n lo hi : Nat) (best : Option (Nat × β)) :
    Option (Nat × β) :=
  if _h : lo < hi then
    let mid := (lo + hi) / 2
    match a[mid]? with
    | none => best
    | some e =>
      if e.1 ≤ n then floorEntry? a n (mid + 1) hi (some e) else floorEntry? a n lo mid best
  else best
termination_by hi - lo

/-- A set of code points: ascending ranges, each with its first and last member. -/
abbrev Ranges := Array (Nat × Nat)

namespace Ranges

def read (lines : List String) : Ranges :=
  (lines.flatMap fun l => (words l.toList).map readRange).toArray

def contains (r : Ranges) (n : Nat) : Bool :=
  match floorEntry? r n 0 r.size none with
  | some (_, hi) => n ≤ hi
  | none => false

end Ranges

/-- Ascending ranges of code points, each with its last member and the word attached to it. -/
abbrev Table := Array (Nat × Nat × List Char)

namespace Table

/-- An entry as it is written. Its range and its word are parted by the first character that is no
part of a range; the word keeps that character. -/
def readEntry (w : List Char) : Nat × Nat × List Char :=
  let (range, word) := w.span fun c => c.isDigit || ('A' ≤ c && c ≤ 'F') || c == '-'
  let (lo, hi) := readRange range
  (lo, hi, word)

def read (lines : List String) : Table :=
  (lines.flatMap fun l => (words l.toList).map readEntry).toArray

/-- The range that holds a code point, with its word. -/
def entry? (t : Table) (n : Nat) : Option (Nat × Nat × List Char) :=
  match floorEntry? t n 0 t.size none with
  | some (lo, hi, word) => if n ≤ hi then some (lo, hi, word) else none
  | none => none

/-- The word of a code point, if it has one. -/
def find? (t : Table) (n : Nat) : Option (List Char) := (t.entry? n).map (·.2.2)

/-- The word of a code point without the sign in front of it, or the one of all code points that
have none. -/
def wordOr (t : Table) (n : Nat) (default : String) : String :=
  match t.find? n with
  | some (_ :: w) => String.ofList w
  | _ => default

end Table

end EndpointClient.Text
