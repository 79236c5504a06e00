/-!
# EndpointClient.Text.Blank

White space as Unicode's property `White_Space` has it, and the trimming of a text by it.

* `isBlank` is the property.
* `trim` drops the blanks at both ends.
-/

namespace EndpointClient.Text

/-- The property `White_Space`: the ASCII blanks with line and page feeds, and the spaces and
separators beyond ASCII. The zero-width space and the byte order mark are not among them. -/
def isBlank (c : Char) : Bool :=
  let n := c.toNat
  (0x09 ≤ n && n ≤ 0x0D) || n == 0x20 || n == 0x85 || n == 0xA0 || n == 0x1680 ||
    (0x2000 ≤ n && n ≤ 0x200A) || n == 0x2028 || n == 0x2029 || n == 0x202F || n == 0x205F ||
    n == 0x3000

def trimLeft (s : List Char) : List Char := s.dropWhile isBlank

def trimRight (s : List Char) : List Char := (trimLeft s.reverse).reverse

def trim (s : List Char) : List Char := trimRight (trimLeft s)

/-- Nothing but blanks, or nothing at all. -/
def isBlankText (s : List Char) : Bool := s.all isBlank

theorem trimLeft_eq_nil_iff {s : List Char} : trimLeft s = [] ↔ isBlankText s = true := by
  induction s with
  | nil => simp [trimLeft, isBlankText]
  | cons c r ih =>
    cases h : isBlank c <;> simp_all [trimLeft, isBlankText]

end EndpointClient.Text
