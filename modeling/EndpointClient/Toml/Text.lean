import EndpointClient.Net.Address

/-!
# EndpointClient.Toml.Text

Strings of TOML documents: between double quotes, where a backslash escapes, or between single
quotes, where it does not; on one line, or between three quotes over any number of lines.

* `readText` reads any of the four, `readLineText` the two that may be keys.
-/

namespace EndpointClient.Toml

def isBlank (c : Char) : Bool := c == ' ' || c == '\t'

def skipBlanks (cs : List Char) : List Char := cs.dropWhile isBlank

/-- A character that may stand in strings and comments as it is: a tab, or no control. -/
def isPlain (c : Char) : Bool := c == '\t' || (0x20 ≤ c.toNat && c.toNat ≠ 0x7F)

/-- The end of a line, if the text starts with it. -/
def readNewline : List Char → Option (List Char)
  | '\n' :: r => some r
  | '\r' :: '\n' :: r => some r
  | _ => none

def skipBlankLines : List Char → List Char
  | '\r' :: '\n' :: r => skipBlankLines r
  | c :: r => if isBlank c || c == '\n' then skipBlankLines r else c :: r
  | [] => []

/-- A character by its number in so many hexadecimal digits. -/
def readNumbered (width : Nat) (cs : List Char) : Option (Char × List Char) :=
  let ds := cs.take width
  let n := ds.foldl (fun n c => n * 16 + IpAddress.hexValue c) 0
  if ds.length = width ∧ ds.all IpAddress.isHexDigit ∧ n.isValidChar then
    some (Char.ofNat n, cs.drop width)
  else none

def readEscape : List Char → Option (Char × List Char)
  | 'b' :: r => some ('\x08', r)
  | 't' :: r => some ('\t', r)
  | 'n' :: r => some ('\n', r)
  | 'f' :: r => some ('\x0c', r)
  | 'r' :: r => some ('\r', r)
  | '"' :: r => some ('"', r)
  | '\\' :: r => some ('\\', r)
  | 'u' :: r => readNumbered 4 r
  | 'U' :: r => readNumbered 8 r
  | _ => none

def readEscaped : (fuel : Nat) → List Char → (acc : List Char) → Option (String × List Char)
  | 0, _, _ => none
  | _, [], _ => none
  | _, '"' :: r, acc => some (String.ofList acc.reverse, r)
  | n + 1, '\\' :: r, acc =>
    match readEscape r with
    | some (c, r') => readEscaped n r' (c :: acc)
    | none => none
  | n + 1, c :: r, acc => if isPlain c then readEscaped n r (c :: acc) else none

def readLiteral : List Char → (acc : List Char) → Option (String × List Char)
  | [], _ => none
  | '\'' :: r, acc => some (String.ofList acc.reverse, r)
  | c :: r, acc => if isPlain c then readLiteral r (c :: acc) else none

/-- What comes after three closing quotes: up to two more of them belong to the string. -/
def closeLong (quote : Char) (acc : List Char) : List Char → String × List Char
  | a :: b :: r =>
    if a == quote && b == quote then (String.ofList (quote :: quote :: acc).reverse, r)
    else if a == quote then (String.ofList (quote :: acc).reverse, b :: r)
    else (String.ofList acc.reverse, a :: b :: r)
  | [a] =>
    if a == quote then (String.ofList (quote :: acc).reverse, [])
    else (String.ofList acc.reverse, [a])
  | [] => (String.ofList acc.reverse, [])

/-- A string of any number of lines after its three double quotes. -/
def readLongEscaped : (fuel : Nat) → List Char → (acc : List Char) → Option (String × List Char)
  | 0, _, _ => none
  | _, [], _ => none
  | _, '"' :: '"' :: '"' :: r, acc => some (closeLong '"' acc r)
  | n + 1, '\\' :: r, acc =>
    match readNewline (skipBlanks r) with
    | some r' => readLongEscaped n (skipBlankLines r') acc
    | none =>
      match readEscape r with
      | some (c, r') => readLongEscaped n r' (c :: acc)
      | none => none
  | n + 1, '\r' :: '\n' :: r, acc => readLongEscaped n r ('\n' :: acc)
  | n + 1, c :: r, acc => if isPlain c || c == '\n' then readLongEscaped n r (c :: acc) else none

/-- A string of any number of lines after its three single quotes. -/
def readLongLiteral : List Char → (acc : List Char) → Option (String × List Char)
  | [], _ => none
  | '\'' :: '\'' :: '\'' :: r, acc => some (closeLong '\'' acc r)
  | '\r' :: '\n' :: r, acc => readLongLiteral r ('\n' :: acc)
  | c :: r, acc => if isPlain c || c == '\n' then readLongLiteral r (c :: acc) else none

def dropFirstNewline (cs : List Char) : List Char := (readNewline cs).getD cs

def readLineText (cs : List Char) : Option (String × List Char) :=
  match cs with
  | '"' :: r => readEscaped (r.length + 1) r []
  | '\'' :: r => readLiteral r []
  | _ => none

def readText (cs : List Char) : Option (String × List Char) :=
  match cs with
  | '"' :: '"' :: '"' :: r => readLongEscaped (r.length + 1) (dropFirstNewline r) []
  | '\'' :: '\'' :: '\'' :: r => readLongLiteral (dropFirstNewline r) []
  | cs => readLineText cs

end EndpointClient.Toml
