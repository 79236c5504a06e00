import EndpointClient.Text.Decimal

/-!
# EndpointClient.Net.Address

Internet addresses and their texts.

* `IpAddress.parse?` reads the dotted form of four numbers and the form of eight groups, in which
  one run of zero groups may be left out and the last two groups may be written dotted.
* `IpAddress.text` writes the canonical form: the longest run of two or more zero groups left out,
  and the dotted form only in an address that stands for one of version 4.
-/

namespace EndpointClient

/-- An address of version 4 as its four bytes, or of version 6 as its eight groups. -/
inductive IpAddress where
  | v4 (a b c d : UInt8)
  | v6 (groups : Vector UInt16 8)
  deriving DecidableEq, Repr

namespace IpAddress

abbrev Quad := UInt8 × UInt8 × UInt8 × UInt8

/-- One number of a dotted address: at most three digits, no leading zero, below 256. -/
def readOctet (cs : List Char) : Option (UInt8 × List Char) :=
  let ds := cs.takeWhile Char.isDigit
  let n := Text.digitsNumber ds
  if ds.isEmpty || 3 < ds.length || (1 < ds.length && ds.head? == some '0') || 255 < n then none
  else some (n.toUInt8, cs.dropWhile Char.isDigit)

def readDotOctet : List Char → Option (UInt8 × List Char)
  | '.' :: cs => readOctet cs
  | _ => none

/-- A dotted address in front of a text, with the rest of it. -/
def readQuad (cs : List Char) : Option (Quad × List Char) := do
  let (a, cs) ← readOctet cs
  let (b, cs) ← readDotOctet cs
  let (c, cs) ← readDotOctet cs
  let (d, cs) ← readDotOctet cs
  return ((a, b, c, d), cs)

def isHexDigit (c : Char) : Bool :=
  c.isDigit || ('a' ≤ c && c ≤ 'f') || ('A' ≤ c && c ≤ 'F')

def hexValue (c : Char) : Nat :=
  if c.isDigit then c.toNat - 48 else if 'a' ≤ c then c.toNat - 87 else c.toNat - 55

/-- One group: at most four hexadecimal digits. -/
def readGroup (cs : List Char) : Option (UInt16 × List Char) :=
  let ds := cs.takeWhile isHexDigit
  if ds.isEmpty || 4 < ds.length then none
  else some ((ds.foldl (fun n c => n * 16 + hexValue c) 0).toUInt16, cs.dropWhile isHexDigit)

def pair (a b : UInt8) : UInt16 := a.toUInt16 * 256 + b.toUInt16

/-- Groups in front of a text, `limit` at most and parted by colons: the groups, whether the last
two were written dotted, and the rest of the text. -/
def readGroups : (limit : Nat) → (first : Bool) → List Char → List UInt16 × Bool × List Char
  | 0, _, cs => ([], false, cs)
  | n + 1, first, cs =>
    let body? := if first then some cs else
      match cs with
      | ':' :: r => some r
      | _ => none
    match body? with
    | none => ([], false, cs)
    | some body =>
      match (if n = 0 then none else readQuad body) with
      | some ((a, b, c, d), rest) => ([pair a b, pair c d], true, rest)
      | none =>
        match readGroup body with
        | none => ([], false, cs)
        | some (g, rest) =>
          let (gs, dotted, rest') := readGroups n false rest
          (g :: gs, dotted, rest')

def ofGroups? (gs : List UInt16) : Option IpAddress :=
  if h : gs.length = 8 then some (.v6 ⟨gs.toArray, by simpa using h⟩) else none

def parseGroups? (cs : List Char) : Option IpAddress :=
  let (front, dotted, rest) := readGroups 8 true cs
  if front.length = 8 then (if rest.isEmpty then ofGroups? front else none)
  else if dotted then none
  else
    match rest with
    | ':' :: ':' :: rest' =>
      let (back, _, rest'') := readGroups (7 - front.length) true rest'
      if rest''.isEmpty then
        ofGroups? (front ++ List.replicate (8 - front.length - back.length) 0 ++ back)
      else none
    | _ => none

def parse? (s : String) : Option IpAddress :=
  let cs := s.toList
  match readQuad cs with
  | some ((a, b, c, d), []) => some (.v4 a b c d)
  | _ => parseGroups? cs

/-- Four bytes, parted by points. -/
def quadText (q : Quad) : List Char :=
  let (a, b, c, d) := q
  Text.natText a.toNat ++ '.' :: Text.natText b.toNat ++ '.' :: Text.natText c.toNat ++
    '.' :: Text.natText d.toNat

/-- Groups in lower-case hexadecimal, parted by colons. -/
def groupsText (gs : List UInt16) : List Char :=
  [':'].intercalate (gs.map fun g => Nat.toDigits 16 g.toNat)

def zeroRun (gs : List UInt16) : Nat := (gs.takeWhile (· == 0)).length

/-- The first of the longest runs of zero groups: its start and its length. -/
def longestZeroRun (gs : List UInt16) : Nat × Nat :=
  (List.range gs.length).foldl (fun best i =>
    let n := zeroRun (gs.drop i)
    if best.2 < n then (i, n) else best) (0, 0)

/-- Groups with the longest run of two or more zeros left out. -/
def compressedText (gs : List UInt16) : List Char :=
  let (start, len) := longestZeroRun gs
  if 1 < len then groupsText (gs.take start) ++ ':' :: ':' :: groupsText (gs.drop (start + len))
  else groupsText gs

def text : IpAddress → String
  | .v4 a b c d => String.ofList (quadText (a, b, c, d))
  | .v6 gs =>
    match gs.toList with
    | [0, 0, 0, 0, 0, 0xFFFF, x, y] =>
      "::ffff:" ++ String.ofList (quadText ((x / 256).toUInt8, x.toUInt8, (y / 256).toUInt8, y.toUInt8))
    | l => String.ofList (compressedText l)

end IpAddress

/-- An address with a port. -/
structure SocketAddress where
  ip : IpAddress
  port : UInt16
  deriving DecidableEq, Repr

namespace SocketAddress

def text (s : SocketAddress) : String :=
  let port := ":" ++ String.ofList (Text.natText s.port.toNat)
  match s.ip with
  | .v4 .. => s.ip.text ++ port
  | .v6 _ => "[" ++ s.ip.text ++ "]" ++ port

/-- A port in front of the end of a text: digits, below 65536. -/
def readPort (cs : List Char) : Option UInt16 :=
  let n := Text.digitsNumber cs
  if cs.isEmpty || !cs.all Char.isDigit || 65535 < n then none else some n.toUInt16

def parse? (s : String) : Option SocketAddress :=
  match s.toList with
  | '[' :: cs =>
    match cs.span (· ≠ ']') with
    | (inner, ']' :: ':' :: port) => do
      let ip ← IpAddress.parseGroups? inner
      return ⟨ip, ← readPort port⟩
    | _ => none
  | cs => do
    match ← IpAddress.readQuad cs with
    | ((a, b, c, d), ':' :: port) => return ⟨.v4 a b c d, ← readPort port⟩
    | _ => none

end SocketAddress

end EndpointClient
