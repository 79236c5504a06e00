import EndpointClient.Json.Basic
import EndpointClient.Net.Address

/-!
# EndpointClient.Json.Parser

Reading JSON texts. A step reads a part off the front of a text and gives the rest of it; `none`
is a text that is no JSON.

* `Json.parse?` reads a whole text.
-/

namespace EndpointClient.Json

def skipBlanks (cs : List Char) : List Char :=
  cs.dropWhile fun c => c == ' ' || c == '\n' || c == '\r' || c == '\t'

def hexQuad : List Char → Option (Nat × List Char)
  | a :: b :: c :: d :: r =>
    if [a, b, c, d].all IpAddress.isHexDigit then
      some ([a, b, c, d].foldl (fun n x => n * 16 + IpAddress.hexValue x) 0, r)
    else none
  | _ => none

/-- A character given by its number, or by two surrogates. -/
def readEscapedNumber (cs : List Char) : Option (Char × List Char) := do
  let (n, r) ← hexQuad cs
  if 0xD800 ≤ n && n < 0xDC00 then
    match r with
    | '\\' :: 'u' :: r' =>
      let (m, r'') ← hexQuad r'
      if 0xDC00 ≤ m && m < 0xE000 then
        return (Char.ofNat (0x10000 + (n - 0xD800) * 0x400 + (m - 0xDC00)), r'')
      else none
    | _ => none
  else if 0xDC00 ≤ n && n < 0xE000 then none
  else return (Char.ofNat n, r)

def readEscape : List Char → Option (Char × List Char)
  | '"' :: r => some ('"', r)
  | '\\' :: r => some ('\\', r)
  | '/' :: r => some ('/', r)
  | 'b' :: r => some ('\x08', r)
  | 'f' :: r => some ('\x0c', r)
  | 'n' :: r => some ('\n', r)
  | 'r' :: r => some ('\r', r)
  | 't' :: r => some ('\t', r)
  | 'u' :: r => readEscapedNumber r
  | _ => none

def readString : (fuel : Nat) → List Char → (acc : List Char) → Option (String × List Char)
  | 0, _, _ => none
  | _, [], _ => none
  | _, '"' :: r, acc => some (String.ofList acc.reverse, r)
  | n + 1, '\\' :: r, acc =>
    match readEscape r with
    | some (c, r') => readString n r' (c :: acc)
    | none => none
  | n + 1, c :: r, acc => if c.toNat < 0x20 then none else readString n r (c :: acc)

/-- The digits in front of a text, one at least. -/
def readDigits (cs : List Char) : Option (List Char × List Char) :=
  match cs.span Char.isDigit with
  | ([], _) => none
  | p => some p

def readExponent : List Char → Option (Option Int × List Char)
  | e :: r =>
    if e == 'e' || e == 'E' then do
      let (negative, r) := match r with
        | '-' :: r => (true, r)
        | '+' :: r => (false, r)
        | r => (false, r)
      let (ds, r) ← readDigits r
      let n : Int := Text.digitsNumber ds
      return (some (if negative then -n else n), r)
    else return (none, e :: r)
  | [] => return (none, [])

def readNumber (cs : List Char) : Option (Json × List Char) := do
  let (negative, cs) := match cs with
    | '-' :: r => (true, r)
    | r => (false, r)
  let (whole, cs) ← readDigits cs
  if 1 < whole.length && whole.head? == some '0' then none
  let (fraction, cs) ← match cs with
    | '.' :: r => (readDigits r).map fun (ds, r) => (some ds, r)
    | r => some (none, r)
  let (exponent, cs) ← readExponent cs
  let sign : Int → Int := fun n => if negative then -n else n
  match fraction, exponent with
  | none, none => return (.integer (sign (Text.digitsNumber whole)), cs)
  | _, _ =>
    let part := fraction.getD []
    return (.decimal (sign (Text.digitsNumber (whole ++ part)))
      (exponent.getD 0 - part.length), cs)

mutual

def readValue : (fuel : Nat) → List Char → Option (Json × List Char)
  | 0, _ => none
  | n + 1, cs =>
    match cs with
    | 'n' :: 'u' :: 'l' :: 'l' :: r => some (.null, r)
    | 't' :: 'r' :: 'u' :: 'e' :: r => some (.bool true, r)
    | 'f' :: 'a' :: 'l' :: 's' :: 'e' :: r => some (.bool false, r)
    | '"' :: r => (readString (n + 1) r []).map fun (s, r) => (.string s, r)
    | '[' :: r =>
      match skipBlanks r with
      | ']' :: r' => some (.array [], r')
      | r' => readItems n r' []
    | '\x7b' :: r =>
      match skipBlanks r with
      | '\x7d' :: r' => some (.object [], r')
      | r' => readFields n r' []
    | cs => readNumber cs

def readItems : (fuel : Nat) → List Char → (acc : List Json) → Option (Json × List Char)
  | 0, _, _ => none
  | n + 1, cs, acc =>
    match readValue n (skipBlanks cs) with
    | none => none
    | some (v, r) =>
      match skipBlanks r with
      | ',' :: r' => readItems n r' (v :: acc)
      | ']' :: r' => some (.array (v :: acc).reverse, r')
      | _ => none

def readFields : (fuel : Nat) → List Char → (acc : List (String × Json)) →
    Option (Json × List Char)
  | 0, _, _ => none
  | n + 1, cs, acc =>
    match skipBlanks cs with
    | '"' :: r =>
      match readString (n + 1) r [] with
      | none => none
      | some (key, r) =>
        match skipBlanks r with
        | ':' :: r =>
          match readValue n (skipBlanks r) with
          | none => none
          | some (v, r) =>
            match skipBlanks r with
            | ',' :: r' => readFields n r' ((key, v) :: acc)
            | '\x7d' :: r' => some (.object ((key, v) :: acc).reverse, r')
            | _ => none
        | _ => none
    | _ => none

end

/-- Reads a text that holds one value and nothing else. -/
def parse? (s : String) : Option Json :=
  let cs := s.toList
  match readValue (cs.length + 1) (skipBlanks cs) with
  | some (v, r) => if (skipBlanks r).isEmpty then some v else none
  | none => none

end EndpointClient.Json
