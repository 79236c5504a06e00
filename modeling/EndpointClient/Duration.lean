import EndpointClient.Text.Decimal

/-!
# EndpointClient.Duration

Spans of time in nanoseconds, and their text: the largest of the units s, ms, µs and ns that the
span fills at least once, with the decimals it needs and no more.
-/

namespace EndpointClient

structure Duration where
  nanos : Nat
  deriving DecidableEq, Repr, Inhabited

namespace Duration

def ofMillis (ms : Nat) : Duration := ⟨ms * 1000000⟩

def ofSecs (secs : Nat) (nanos : Nat) : Duration := ⟨secs * 1000000000 + nanos⟩

def millis (d : Duration) : Nat := d.nanos / 1000000

/-- The milliseconds until a span is over, on a clock that counts whole ones. -/
def ticks (d : Duration) : Nat := (d.nanos + 999999) / 1000000

theorem millis_ofMillis (ms : Nat) : (ofMillis ms).millis = ms := by
  simp [millis, ofMillis]

theorem ticks_ofMillis (ms : Nat) : (ofMillis ms).ticks = ms := by
  simp only [ticks, ofMillis]
  omega

/-- So many units of `10 ^ width` nanoseconds. -/
def inUnit (d : Duration) (width : Nat) (unit : List Char) : List Char :=
  Text.natText (d.nanos / Text.tenTo width) ++ Text.fractionText width (d.nanos % Text.tenTo width) ++ unit

/-- The text of a span: `1.5s`, `10ms`, `1.5µs`, `999ns`. -/
def text (d : Duration) : String :=
  String.ofList <|
    if Text.tenTo 9 ≤ d.nanos then d.inUnit 9 ['s']
    else if Text.tenTo 6 ≤ d.nanos then d.inUnit 6 ['m', 's']
    else if Text.tenTo 3 ≤ d.nanos then d.inUnit 3 ['µ', 's']
    else d.inUnit 0 ['n', 's']

end Duration

end EndpointClient
