/-!
# EndpointClient.Text.Utf8

Bytes, and the UTF-8 form of a text.

* `encode` writes a text, `decode?` reads it back and refuses what no text is written as.
* `decodeLossy` reads any bytes: each longest start of a character that breaks off becomes one
  replacement character, and so does each byte that starts none.
-/

namespace EndpointClient

abbrev Bytes := List UInt8

namespace Utf8

def encodeChar (c : Char) : Bytes :=
  let n := c.toNat
  if n < 0x80 then [n.toUInt8]
  else if n < 0x800 then [(0xC0 + n / 64).toUInt8, (0x80 + n % 64).toUInt8]
  else if n < 0x10000 then
    [(0xE0 + n / 4096).toUInt8, (0x80 + n / 64 % 64).toUInt8, (0x80 + n % 64).toUInt8]
  else
    [(0xF0 + n / 262144).toUInt8, (0x80 + n / 4096 % 64).toUInt8,
      (0x80 + n / 64 % 64).toUInt8, (0x80 + n % 64).toUInt8]

def encode (s : String) : Bytes := s.toList.flatMap encodeChar

/-- How a sequence of bytes starts: with a character, or with bytes that are the start of none. -/
inductive Head where
  | char (c : Char) (rest : Bytes)
  | broken (rest : Bytes)

def Head.rest : Head → Bytes
  | .char _ r => r
  | .broken r => r

def isTail (b : UInt8) : Bool := 0x80 ≤ b && b ≤ 0xBF

/-- The second bytes allowed after a first one: none that make an overlong form, a surrogate or a
number beyond the last code point. -/
def isSecond (first b : UInt8) : Bool :=
  if first == 0xE0 then 0xA0 ≤ b && b ≤ 0xBF
  else if first == 0xED then 0x80 ≤ b && b ≤ 0x9F
  else if first == 0xF0 then 0x90 ≤ b && b ≤ 0xBF
  else if first == 0xF4 then 0x80 ≤ b && b ≤ 0x8F
  else isTail b

def low (b : UInt8) : Nat := b.toNat % 64

/-- Reads one character off a sequence of bytes that starts with `a`. -/
def head (a : UInt8) (rest : Bytes) : Head :=
  if a < 0x80 then .char (Char.ofNat a.toNat) rest
  else if 0xC2 ≤ a && a ≤ 0xDF then
    match rest with
    | b :: r => if isTail b then .char (Char.ofNat (a.toNat % 32 * 64 + low b)) r else .broken rest
    | [] => .broken []
  else if 0xE0 ≤ a && a ≤ 0xEF then
    match rest with
    | b :: r =>
      if isSecond a b then
        match r with
        | c :: r' =>
          if isTail c then .char (Char.ofNat (a.toNat % 16 * 4096 + low b * 64 + low c)) r'
          else .broken r
        | [] => .broken []
      else .broken rest
    | [] => .broken []
  else if 0xF0 ≤ a && a ≤ 0xF4 then
    match rest with
    | b :: r =>
      if isSecond a b then
        match r with
        | c :: r' =>
          if isTail c then
            match r' with
            | d :: r'' =>
              if isTail d then
                .char (Char.ofNat (a.toNat % 8 * 262144 + low b * 4096 + low c * 64 + low d)) r''
              else .broken r'
            | [] => .broken []
          else .broken r
        | [] => .broken []
      else .broken rest
    | [] => .broken []
  else .broken rest

theorem length_rest_head (a : UInt8) (rest : Bytes) : (head a rest).rest.length ≤ rest.length := by
  unfold head
  repeat' split
  all_goals simp [Head.rest]
  all_goals omega

/-- Reads any bytes as characters, with U+FFFD for what is none. -/
def decodeLossyChars : Bytes → List Char
  | [] => []
  | a :: rest =>
    have : (head a rest).rest.length < (a :: rest).length :=
      Nat.lt_succ_of_le (length_rest_head a rest)
    match head a rest, this with
    | .char c r, _ => c :: decodeLossyChars r
    | .broken r, _ => '\uFFFD' :: decodeLossyChars r
termination_by bs => bs.length
decreasing_by all_goals assumption

/-- Reads any bytes as a text, with U+FFFD for what is no character. -/
def decodeLossy (bs : Bytes) : String := String.ofList (decodeLossyChars bs)

/-- Reads bytes as characters, if they are the form of some. -/
def decodeChars? : Bytes → Option (List Char)
  | [] => some []
  | a :: rest =>
    have : (head a rest).rest.length < (a :: rest).length :=
      Nat.lt_succ_of_le (length_rest_head a rest)
    match head a rest, this with
    | .char c r, _ => (decodeChars? r).map (c :: ·)
    | .broken _, _ => none
termination_by bs => bs.length
decreasing_by all_goals assumption

/-- Reads bytes as a text, if they are the form of one. -/
def decode? (bs : Bytes) : Option String := (decodeChars? bs).map String.ofList

end Utf8

end EndpointClient
