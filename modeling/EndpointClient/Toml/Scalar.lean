import EndpointClient.Net.Address
import EndpointClient.Toml.Value
import EndpointClient.Word

/-!
# EndpointClient.Toml.Scalar

Numbers, dates and times of TOML documents. Each reader takes its part off the front of a text and
gives the rest of it; `none` is a text that does not start so.

* `readNumber` reads integers, which 64 bits with a sign must hold, and floats, which must not be
  too large for 64 bits.
* `readDateTime` reads dates, times, and both, of days that are in the calendar.
-/

namespace EndpointClient.Toml

/-- The digits after a first one. Single underscores may stand between two digits. -/
def moreDigits (isDigit : Char → Bool) : List Char → (acc : List Char) →
    Option (List Char × List Char)
  | [], acc => some (acc.reverse, [])
  | '_' :: c :: r, acc => if isDigit c then moreDigits isDigit r (c :: acc) else none
  | c :: r, acc =>
    if isDigit c then moreDigits isDigit r (c :: acc)
    else if c == '_' then none
    else some (acc.reverse, c :: r)

def readDigits (isDigit : Char → Bool) : List Char → Option (List Char × List Char)
  | c :: r => if isDigit c then moreDigits isDigit r [c] else none
  | [] => none

/-- An integer, if 64 bits with a sign can hold it. -/
def int64? (n : Int) : Option Value :=
  if Word.holdsSigned n then some (.integer n) else none

/-- An integer with a base of its own: digits without a sign. -/
def readBased (base : Nat) (isDigit : Char → Bool) (cs : List Char) :
    Option (Value × List Char) := do
  let (ds, r) ← readDigits isDigit cs
  return (← int64? (ds.foldl (fun n c => n * base + IpAddress.hexValue c) 0 : Nat), r)

/-- The least number that rounds to infinity in 64 bits. -/
def overflowBound : Nat := Nat.pow 2 1024 - Nat.pow 2 970

/-- Whether `mantissa * 10 ^ exponent` is too large for 64 bits. -/
def overflows (mantissa : Nat) (exponent : Int) : Bool :=
  let magnitude : Int := (Text.natText mantissa).length + exponent
  if mantissa = 0 ∨ magnitude < 300 then false
  else if 320 < magnitude then true
  else if 0 ≤ exponent then overflowBound ≤ mantissa * Text.tenTo exponent.toNat
  else overflowBound * Text.tenTo exponent.natAbs ≤ mantissa

def readSign : List Char → Option Bool × List Char
  | '-' :: r => (some true, r)
  | '+' :: r => (some false, r)
  | r => (none, r)

/-- The whole part of a decimal number: one zero, or digits that start with none. -/
def readWhole : List Char → Option (List Char × List Char)
  | '0' :: r => some (['0'], r)
  | cs => readDigits Char.isDigit cs

def readFraction : List Char → Option (Option (List Char) × List Char)
  | '.' :: r => (readDigits Char.isDigit r).map fun (ds, r) => (some ds, r)
  | r => some (none, r)

def readExponent : List Char → Option (Option Int × List Char)
  | c :: r =>
    if c == 'e' || c == 'E' then
      let (sign, r) := readSign r
      (readDigits Char.isDigit r).map fun (ds, r) =>
        let n : Int := Text.digitsNumber ds
        (some (if sign == some true then -n else n), r)
    else some (none, c :: r)
  | [] => some (none, [])

def readDecimal (negative : Bool) (cs : List Char) : Option (Value × List Char) := do
  let (whole, r) ← readWhole cs
  let (fraction, r) ← readFraction r
  let (exponent, r) ← readExponent r
  match fraction, exponent with
  | none, none =>
    let n : Int := Text.digitsNumber whole
    return (← int64? (if negative then -n else n), r)
  | _, _ =>
    let part := fraction.getD []
    if !negative && overflows (Text.digitsNumber (whole ++ part)) (exponent.getD 0 - part.length) then
      none
    else return (.float (String.ofList (cs.take (cs.length - r.length))), r)

def readNumber (cs : List Char) : Option (Value × List Char) :=
  match cs with
  | '0' :: 'x' :: r => readBased 16 IpAddress.isHexDigit r
  | '0' :: 'o' :: r => readBased 8 (fun c => '0' ≤ c && c ≤ '7') r
  | '0' :: 'b' :: r => readBased 2 (fun c => c == '0' || c == '1') r
  | cs =>
    let (sign, r) := readSign cs
    match r with
    | 'i' :: 'n' :: 'f' :: r' => some (.float "inf", r')
    | 'n' :: 'a' :: 'n' :: r' => some (.float "nan", r')
    | r => readDecimal (sign == some true) r

/-- A number of exactly so many digits. -/
def readFixed (width : Nat) (cs : List Char) : Option (Nat × List Char) :=
  let ds := cs.take width
  if ds.length = width ∧ ds.all Char.isDigit then some (Text.digitsNumber ds, cs.drop width) else none

def readPart (lo hi : Nat) (cs : List Char) : Option (Nat × List Char) := do
  let (n, r) ← readFixed 2 cs
  if lo ≤ n && n ≤ hi then return (n, r) else none

def readChar (c : Char) : List Char → Option (List Char)
  | d :: r => if c == d then some r else none
  | [] => none

def isLeapYear (y : Nat) : Bool := y % 4 == 0 && (y % 100 != 0 || y % 400 == 0)

def daysIn (year month : Nat) : Nat :=
  if month = 2 then (if isLeapYear year then 29 else 28)
  else if month = 4 ∨ month = 6 ∨ month = 9 ∨ month = 11 then 30
  else 31

def readDate (cs : List Char) : Option (List Char) := do
  let (year, r) ← readFixed 4 cs
  let (month, r) ← readPart 1 12 (← readChar '-' r)
  let (day, r) ← readPart 1 31 (← readChar '-' r)
  if day ≤ daysIn year month then return r else none

/-- A time of day, which may hold a leap second. -/
def readTime (cs : List Char) : Option (List Char) := do
  let (_, r) ← readPart 0 23 cs
  let (_, r) ← readPart 0 59 (← readChar ':' r)
  let (_, r) ← readPart 0 60 (← readChar ':' r)
  match r with
  | '.' :: r' =>
    match r'.span Char.isDigit with
    | ([], _) => none
    | (_, r'') => return r''
  | r => return r

/-- An offset from universal time, if there is one. -/
def readOffset (cs : List Char) : Option (List Char) :=
  match cs with
  | 'Z' :: r => some r
  | 'z' :: r => some r
  | c :: r =>
    if c == '+' || c == '-' then do
      let (_, r) ← readPart 0 23 r
      let (_, r) ← readPart 0 59 (← readChar ':' r)
      return r
    else some (c :: r)
  | [] => some []

def startsDate (cs : List Char) : Bool :=
  ((readFixed 4 cs).bind fun (_, r) => readChar '-' r).isSome

def startsTime (cs : List Char) : Bool :=
  ((readFixed 2 cs).bind fun (_, r) => readChar ':' r).isSome

/-- A date, a time, or a date with a time and an offset. -/
def readDateTime (cs : List Char) : Option (Value × List Char) := do
  let rest ←
    if startsDate cs then do
      let r ← readDate cs
      match r with
      | c :: r' =>
        if (c == 'T' || c == 't' || c == ' ') && startsTime r' then readOffset (← readTime r')
        else some r
      | [] => some []
    else readTime cs
  return (.dateTime (String.ofList (cs.take (cs.length - rest.length))), rest)

/-- A number, a date or a time. -/
def readNumberOrDate (cs : List Char) : Option (Value × List Char) :=
  if startsDate cs || startsTime cs then readDateTime cs else readNumber cs

end EndpointClient.Toml
