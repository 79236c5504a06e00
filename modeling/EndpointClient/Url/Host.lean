import EndpointClient.Net.Address
import EndpointClient.Url.Idna
import EndpointClient.Url.Percent

/-!
# EndpointClient.Url.Host

Hosts of URLs: a domain, or an address in one of its many spellings.

* `Host.parse` reads the host of a special scheme, `Host.parseOpaque` that of another one.
* `Host.chars` is the one spelling it is written in.
-/

namespace EndpointClient

inductive UrlError where
  | emptyHost
  | invalidDomain
  | invalidPort
  | invalidIpv4
  | invalidIpv6
  | invalidDomainCharacter
  | relative
  deriving DecidableEq, Repr

def UrlError.message : UrlError → String
  | .emptyHost => "empty host"
  | .invalidDomain => "invalid international domain name"
  | .invalidPort => "invalid port number"
  | .invalidIpv4 => "invalid IPv4 address"
  | .invalidIpv6 => "invalid IPv6 address"
  | .invalidDomainCharacter => "invalid domain character"
  | .relative => "relative URL without a base"

inductive Host where
  | domain (cs : List Char)
  | address (a : IpAddress)
  deriving DecidableEq

namespace Host

/-- The text of a host. Groups stand in brackets, and are written as such throughout. -/
def chars : Host → List Char
  | .domain cs => cs
  | .address (.v4 a b c d) => IpAddress.quadText (a, b, c, d)
  | .address (.v6 gs) => '[' :: IpAddress.compressedText gs.toList ++ [']']

/-- A number in decimal, or in octal after `0`, or in hexadecimal after `0x`; none if it is no such
number. -/
def readNumber (cs : List Char) : Option Nat :=
  let value (base : Nat) (isDigit : Char → Bool) (ds : List Char) : Option Nat :=
    if ds.all isDigit then some (ds.foldl (fun n c => n * base + IpAddress.hexValue c) 0) else none
  match cs with
  | [] => none
  | '0' :: 'x' :: ds => value 16 IpAddress.isHexDigit ds
  | '0' :: 'X' :: ds => value 16 IpAddress.isHexDigit ds
  | '0' :: d :: ds => value 8 (fun c => '0' ≤ c && c ≤ '7') (d :: ds)
  | ds => value 10 Char.isDigit ds

/-- The parts of a domain without an empty last one. -/
def numberParts (cs : List Char) : List (List Char) :=
  let parts := Idna.labels cs
  if parts.getLast? == some [] then parts.dropLast else parts

/-- Whether the last part of a domain is a number, so that the domain has to be an address. -/
def endsInNumber (cs : List Char) : Bool :=
  match (numberParts cs).getLast? with
  | some [] => false
  | some last => last.all Char.isDigit || (readNumber last).isSome
  | none => false

/-- The address that numbers stand for: one byte each, and the last one for all bytes left. -/
def ofNumbers? (ns : List Nat) : Option IpAddress :=
  match ns.reverse with
  | [] => none
  | last :: front =>
    let k := front.length
    if 3 < k ∨ front.any (255 < ·) ∨ Nat.pow 256 (4 - k) ≤ last then none
    else
      let n := front.reverse.foldr (fun b (acc : Nat × Nat) => (acc.1 + b * Nat.pow 256 acc.2, acc.2 + 1))
        (last, 4 - k) |>.1
      some (.v4 (n / 16777216 % 256).toUInt8 (n / 65536 % 256).toUInt8 (n / 256 % 256).toUInt8
        (n % 256).toUInt8)

def parseNumbers? (cs : List Char) : Option IpAddress :=
  ((numberParts cs).mapM readNumber).bind ofNumbers?

def parseBrackets (cs : List Char) : Except UrlError Host :=
  if cs.getLast? == some ']' then
    match IpAddress.parseGroups? cs.dropLast with
    | some a => .ok (.address a)
    | none => .error .invalidIpv6
  else .error .invalidIpv6

def parse (cs : List Char) : Except UrlError Host :=
  match cs with
  | '[' :: r => parseBrackets r
  | cs =>
    match (Utf8.decodeChars? (Percent.decode cs)).bind Idna.toAscii? with
    | none => .error .invalidDomain
    | some [] => .error .emptyHost
    | some name =>
      if endsInNumber name then
        match parseNumbers? name with
        | some a => .ok (.address a)
        | none => .error .invalidIpv4
      else .ok (.domain name)

/-- A character that no host may hold. -/
def isForbidden (c : Char) : Bool := "\x00\t\n\r #/:<>?@[\\]^|".toList.contains c

/-- Reads the host of a scheme that is not special. -/
def parseOpaque (cs : List Char) : Except UrlError Host :=
  match cs with
  | '[' :: r => parseBrackets r
  | cs =>
    if cs.any isForbidden then .error .invalidDomainCharacter
    else .ok (.domain (Percent.encode [] cs))

end Host

end EndpointClient
