import EndpointClient.Text.Decimal
import EndpointClient.Text.Utf8

/-!
# EndpointClient.Http.Uri

Request targets: `scheme://authority/path?query`, an authority alone, a path alone, or `*`.

* `Uri.parse` reads one; `UriError` is why a text is none.
* `Uri.text` writes it again: a fragment is dropped, and the empty path after a scheme is `/`.
* `Uri.host`, `Uri.port?`, `Uri.pathText` and `Uri.query` are its parts.
-/

namespace EndpointClient.Http

inductive UriError where
  | empty
  | tooLong
  | schemeTooLong
  | invalidCharacter
  | invalidAuthority
  | invalidFormat
  deriving DecidableEq, Repr

def UriError.message : UriError → String
  | .empty => "empty string"
  | .tooLong => "uri too long"
  | .schemeTooLong => "scheme too long"
  | .invalidCharacter => "invalid uri character"
  | .invalidAuthority => "invalid authority"
  | .invalidFormat => "invalid format"

structure Uri where
  scheme : Option (List Char)
  authority : List Char
  path : List Char
  query : Option (List Char)
  deriving DecidableEq, Repr

namespace Uri

def maxLength : Nat := 65534

def maxSchemeLength : Nat := 64

def isSchemeChar (c : Char) : Bool := c.isAlphanum || "+-.~".toList.contains c

/-- A character that an authority may hold, `%` apart. -/
def isAuthorityChar (c : Char) : Bool :=
  c.isAlphanum || "!$&'()*+,-.:;=@[]_~".toList.contains c

def endsAuthority (c : Char) : Bool := c == '/' || c == '?' || c == '#'

/-- A character that may stand in a path as it is. -/
def isPathChar (c : Char) : Bool :=
  let n := c.toNat
  n == 0x21 || n == 0x22 || (0x24 ≤ n && n ≤ 0x3B) || n == 0x3D || (0x40 ≤ n && n ≤ 0x5F) ||
    (0x61 ≤ n && n ≤ 0x7E) || 0x7F ≤ n

/-- A character that may stand in a query as it is. -/
def isQueryChar (c : Char) : Bool :=
  let n := c.toNat
  n == 0x21 || (0x24 ≤ n && n ≤ 0x3B) || n == 0x3D || 0x3F ≤ n

/-- What is known of an authority after some of its characters: the colons since the last `@` or
`]`, the brackets met, whether a `%` stands since then, and whether the last character was `@`. -/
structure AuthorityScan where
  colons : Nat := 0
  opened : Bool := false
  closed : Bool := false
  percent : Bool := false
  endsWithAt : Bool := false

def AuthorityScan.step (s : AuthorityScan) (c : Char) : Except UriError AuthorityScan :=
  if c == ':' then
    if 8 ≤ s.colons then .error .invalidAuthority
    else .ok { s with colons := s.colons + 1, endsWithAt := false }
  else if c == '[' then
    if s.percent || s.opened then .error .invalidAuthority
    else .ok { s with opened := true, endsWithAt := false }
  else if c == ']' then
    if !s.opened || s.closed then .error .invalidAuthority
    else .ok { s with closed := true, colons := 0, percent := false, endsWithAt := false }
  else if c == '@' then .ok { s with colons := 0, percent := false, endsWithAt := true }
  else if c == '%' then .ok { s with percent := true, endsWithAt := false }
  else if isAuthorityChar c then .ok { s with endsWithAt := false }
  else .error .invalidCharacter

/-- Whether what was met makes an authority: brackets in pairs, one colon at most before a port,
a host after an `@`, and `%` in user information and brackets only. -/
def AuthorityScan.isComplete (s : AuthorityScan) : Bool :=
  s.opened == s.closed && s.colons ≤ 1 && !s.endsWithAt && !s.percent

def splitAuthority (cs : List Char) : Except UriError (List Char × List Char) := do
  let authority := cs.takeWhile fun c => !endsAuthority c
  let scan ← authority.foldlM AuthorityScan.step {}
  if scan.isComplete then return (authority, cs.dropWhile fun c => !endsAuthority c)
  else throw .invalidAuthority

/-- Splits a text after an authority that must not be missing altogether. -/
def splitAuthorityOfSome (cs : List Char) : Except UriError (List Char × List Char) :=
  if cs.isEmpty then .error .empty else splitAuthority cs

/-- Reads a path with a query. A fragment is dropped unread. -/
def readPathAndQuery (cs : List Char) : Except UriError (List Char × Option (List Char)) :=
  let path := cs.takeWhile fun c => c != '?' && c != '#'
  let rest := cs.dropWhile fun c => c != '?' && c != '#'
  if !path.all isPathChar then .error .invalidCharacter
  else
    match rest with
    | '?' :: r =>
      let query := r.takeWhile (· != '#')
      if query.all isQueryChar then .ok (path, some query) else .error .invalidCharacter
    | _ => .ok (path, none)

/-- Splits a text after its scheme and the `://` behind it, if it starts so. -/
def splitScheme (cs : List Char) : Except UriError (Option (List Char) × List Char) :=
  match cs.span isSchemeChar with
  | (scheme, ':' :: '/' :: '/' :: rest) =>
    let lower := scheme.map Char.toLower
    if lower = "http".toList || lower = "https".toList then .ok (some lower, rest)
    else if cs.length ≤ 3 then .ok (none, cs)
    else if maxSchemeLength < scheme.length then .error .schemeTooLong
    else .ok (some scheme, rest)
  | _ => .ok (none, cs)

/-- Reads a target of more than one character that does not start with `/`. -/
def parseFull (cs : List Char) : Except UriError Uri := do
  let (scheme, rest) ← splitScheme cs
  let (authority, rest) ← splitAuthorityOfSome rest
  match scheme with
  | none => if rest.isEmpty then return ⟨none, authority, [], none⟩ else throw .invalidFormat
  | some _ =>
    if authority.isEmpty then throw .invalidFormat
    else
      let (path, query) ← readPathAndQuery rest
      return ⟨scheme, authority, path, query⟩

def parseSingle (c : Char) : Except UriError Uri := do
  if c == '/' || c == '*' then return ⟨none, [], [c], none⟩
  else
    let (authority, rest) ← splitAuthority [c]
    if rest.isEmpty then return ⟨none, authority, [], none⟩ else throw .invalidCharacter

def parse (s : String) : Except UriError Uri :=
  if maxLength < s.utf8ByteSize then .error .tooLong
  else
    match s.toList with
    | [] => .error .empty
    | [c] => if c.toNat < 0x80 then parseSingle c else .error .invalidCharacter
    | '/' :: cs => do
      let (path, query) ← readPathAndQuery ('/' :: cs)
      return ⟨none, [], path, query⟩
    | cs => parseFull cs

/-- The path, which is `/` if it is empty after a scheme. -/
def pathChars (u : Uri) : List Char :=
  if u.path.isEmpty && u.scheme.isSome then ['/'] else u.path

def pathText (u : Uri) : String := String.ofList u.pathChars

def pathAndQueryChars (u : Uri) : List Char :=
  u.pathChars ++ u.query.elim [] ('?' :: ·)

def chars (u : Uri) : List Char :=
  u.scheme.elim [] (· ++ "://".toList) ++ u.authority ++ u.pathAndQueryChars

def text (u : Uri) : String := String.ofList u.chars

/-- What stands in an authority after the last `@`. -/
def afterUserInfo (cs : List Char) : List Char := (cs.reverse.takeWhile (· != '@')).reverse

/-- The host of an authority, with its brackets if it has any. -/
def hostOf (authority : List Char) : List Char :=
  match afterUserInfo authority with
  | '[' :: cs => '[' :: cs.takeWhile (· != ']') ++ [']']
  | cs => cs.takeWhile (· != ':')

def host? (u : Uri) : Option (List Char) :=
  if u.authority.isEmpty then none else some (hostOf u.authority)

/-- A port number: digits below 65536, with a plus sign before them or not. -/
def readPort (cs : List Char) : Option Nat :=
  let ds := match cs with
    | '+' :: r => r
    | r => r
  let n := Text.digitsNumber ds
  if ds.isEmpty || !ds.all Char.isDigit || 65535 < n then none else some n

def port? (u : Uri) : Option Nat :=
  if u.authority.contains ':' then readPort (u.authority.reverse.takeWhile (· != ':')).reverse
  else none

end Uri

end EndpointClient.Http
