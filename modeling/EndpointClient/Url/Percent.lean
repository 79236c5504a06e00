import EndpointClient.Net.Address
import EndpointClient.Text.Utf8

/-!
# EndpointClient.Url.Percent

Bytes written as `%` and two hexadecimal digits.

* `encode` writes those characters so that are not ASCII, are controls, or are in a given set.
* `decode` reads all that are written so, and leaves a `%` that starts no such triple.
-/

namespace EndpointClient.Percent

def encodeByte (b : UInt8) : List Char :=
  let d (n : Nat) : Char := Char.ofNat (if n < 10 then 48 + n else 55 + n)
  ['%', d (b.toNat / 16), d (b.toNat % 16)]

/-- Whether a character is written out in every part of a URL. -/
def isControl (c : Char) : Bool := c.toNat < 0x20 || 0x7F ≤ c.toNat

/-- Writes out the characters of a set, controls, and what is not ASCII. -/
def encode (set : List Char) (cs : List Char) : List Char :=
  cs.flatMap fun c =>
    if isControl c || set.contains c then (Utf8.encodeChar c).flatMap encodeByte else [c]

def fragmentSet : List Char := " \"<>`".toList

def pathSet : List Char := " \"<>`#?\x7b\x7d".toList

def userSet : List Char := pathSet ++ "/:;=@[\\]^|".toList

def querySet : List Char := " \"#<>".toList

/-- The characters written out in a query of a special scheme. -/
def specialQuerySet : List Char := '\'' :: querySet

/-- The bytes of a text in which some are written out. -/
def decode : List Char → Bytes
  | '%' :: a :: b :: r =>
    if IpAddress.isHexDigit a && IpAddress.isHexDigit b then
      (IpAddress.hexValue a * 16 + IpAddress.hexValue b).toUInt8 :: decode r
    else 0x25 :: decode (a :: b :: r)
  | c :: r => Utf8.encodeChar c ++ decode r
  | [] => []

end EndpointClient.Percent
