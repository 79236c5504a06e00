import EndpointClient.Url.Basic

/-!
# EndpointClient.Url.Parser

Reading URLs, the way that browsers agreed upon.

* `Url.parse` reads an absolute URL. What may stand in it is kept or written out, dot segments are
  taken away, hosts and ports are brought into one spelling.
-/

namespace EndpointClient

namespace Url

def isTrimmed (c : Char) : Bool := c.toNat ≤ 0x20

/-- Drops controls and blanks at both ends, and tabs and ends of lines everywhere. -/
def clean (cs : List Char) : List Char :=
  let cs := cs.dropWhile isTrimmed
  let cs := (cs.reverse.dropWhile isTrimmed).reverse
  cs.filter fun c => c != '\t' && c != '\n' && c != '\r'

/-- Splits a text after its scheme, which is brought into lower case, and the colon behind it. -/
def splitScheme? (cs : List Char) : Option (List Char × List Char) :=
  match cs with
  | [] => none
  | c :: _ =>
    if !c.isAlpha then none
    else
      match cs.span fun c => c.isAlphanum || c == '+' || c == '-' || c == '.' with
      | (scheme, ':' :: rest) => some (scheme.map Char.toLower, rest)
      | _ => none

/-- Whether a character is a slash, or a backslash where that is as good. -/
def isSlash (kind : SchemeKind) (c : Char) : Bool := c == '/' || (kind.isSpecial && c == '\\')

def endsAuthority (kind : SchemeKind) (c : Char) : Bool := isSlash kind c || c == '?' || c == '#'

/-- User information written out, with its `@`, or nothing if it is empty. -/
def userChars (cs : List Char) : List Char :=
  let (name, password) := match cs.span (· != ':') with
    | (name, _ :: password) => (name, password)
    | (name, []) => (name, [])
  let enc := Percent.encode Percent.userSet
  if name.isEmpty && password.isEmpty then []
  else enc name ++ (if password.isEmpty then [] else ':' :: enc password) ++ ['@']

/-- Splits a text after its user information, which ends with the last `@` of the authority. -/
def splitUser (kind : SchemeKind) (cs : List Char) : Except UrlError (List Char × List Char) :=
  let authority := cs.takeWhile fun c => !endsAuthority kind c
  let after := cs.drop authority.length
  match authority.reverse.span (· != '@') with
  | (_, []) => .ok ([], cs)
  | (host, _ :: user) =>
    if user.isEmpty && host.isEmpty && !after.isEmpty then .error .emptyHost
    else .ok (userChars user.reverse, host.reverse ++ after)

/-- Splits a text after its host, which ends with a colon outside brackets or with the authority. -/
def splitHost (kind : SchemeKind) : (inBrackets : Bool) → List Char → List Char × List Char
  | _, [] => ([], [])
  | inBrackets, c :: r =>
    if (c == ':' && !inBrackets) || endsAuthority kind c then ([], c :: r)
    else
      let (host, rest) := splitHost kind (if c == '[' then true else if c == ']' then false else inBrackets) r
      (c :: host, rest)

/-- Splits a text after a port, which is kept unless it is the usual one. -/
def splitPort (scheme : List Char) (cs : List Char) : Except UrlError (Option Nat × List Char) :=
  let digits := cs.takeWhile Char.isDigit
  let rest := cs.drop digits.length
  let port := Text.digitsNumber digits
  if 65535 < port then .error .invalidPort
  else if rest.head?.any fun c => !(c == '/' || c == '\\' || c == '?' || c == '#') then
    .error .invalidPort
  else .ok (if digits.isEmpty || usualPort? scheme = some port then none else some port, rest)

def splitAuthority (scheme : List Char) (kind : SchemeKind) (cs : List Char) :
    Except UrlError (Authority × List Char) := do
  let (user, rest) ← splitUser kind cs
  let (hostText, rest) := splitHost kind false rest
  if kind = .special && hostText.isEmpty then throw .emptyHost
  let host ← if kind.isSpecial then Host.parse hostText else Host.parseOpaque hostText
  if host.chars.isEmpty && (rest.head? == some ':' || !user.isEmpty) then throw .emptyHost
  let (port, rest) ← match rest with
    | ':' :: r => splitPort scheme r
    | r => pure (none, r)
  return (⟨user, host.chars, port⟩, rest)

/-- The steps that a segment of a path may be: back to the one before, on the spot, or itself. -/
inductive SegmentStep where
  | back
  | stay
  | down (segment : List Char)

/-- The step that a segment is. Its points may be written out. -/
def segmentStep (s : List Char) : SegmentStep :=
  match s.map Char.toLower with
  | ['.', '.'] => .back
  | ['.', '%', '2', 'e'] => .back
  | ['%', '2', 'e', '.'] => .back
  | ['%', '2', 'e', '%', '2', 'e'] => .back
  | ['.'] => .stay
  | ['%', '2', 'e'] => .stay
  | _ => .down s

/-- Whether a segment is a letter and a colon or a bar, the name of a drive. -/
def isDrive : List Char → Bool
  | [c, d] => c.isAlpha && (d == ':' || d == '|')
  | _ => false

/-- Drops the last of the segments, which are given last one first; the drive of a file stays. -/
def goBack (kind : SchemeKind) : List (List Char) → List (List Char)
  | [] => []
  | [s] => if kind = .file && isDrive s then [s] else []
  | _ :: ss => ss

/-- Takes segments in order, the last of which ends the path: those that point back or stay leave an
empty one behind when they end it. The result is given last one first. -/
def walk (kind : SchemeKind) : List (List Char) → List (List Char) → List (List Char)
  | acc, [] => acc
  | acc, s :: rest =>
    match segmentStep s with
    | .back => walk kind (if rest.isEmpty then [] :: goBack kind acc else goBack kind acc) rest
    | .stay => walk kind (if rest.isEmpty then [] :: acc else acc) rest
    | .down s =>
      let s := match s with
        | [c, d] => if kind = .file && acc.isEmpty && isDrive [c, d] then [c, ':'] else s
        | s => s
      walk kind (s :: acc) rest

def splitSegments (kind : SchemeKind) (cs : List Char) : List (List Char) :=
  let (last, rest) := cs.foldr (fun c (acc : List Char × List (List Char)) =>
    if isSlash kind c then ([], acc.1 :: acc.2) else (c :: acc.1, acc.2)) ([], [])
  last :: rest

/-- The path that a text after the first slash stands for. -/
def pathOf (kind : SchemeKind) (cs : List Char) : List (List Char) :=
  let parts := (splitSegments kind cs).map (Percent.encode Percent.pathSet)
  let ss := (walk kind [] parts).reverse
  if kind = .file then
    match ss.dropWhile List.isEmpty with
    | [] => [[]]
    | ss' => ss'
  else ss

def splitPath (cs : List Char) : List Char × List Char := cs.span fun c => c != '?' && c != '#'

/-- The path that a text after an authority stands for. Only that of a special scheme is never
empty. -/
def pathAfterAuthority (kind : SchemeKind) (cs : List Char) : List (List Char) :=
  match cs with
  | [] => if kind.isSpecial then [[]] else []
  | c :: r => if isSlash kind c then pathOf kind r else pathOf kind (c :: r)

def readTail (kind : SchemeKind) (cs : List Char) : Option (List Char) × Option (List Char) :=
  let querySet := if kind.isSpecial then Percent.specialQuerySet else Percent.querySet
  let fragment (r : List Char) : Option (List Char) :=
    match r with
    | '#' :: f => some (Percent.encode Percent.fragmentSet f)
    | _ => none
  match cs with
  | '?' :: r =>
    let (query, r) := r.span (· != '#')
    (some (Percent.encode querySet query), fragment r)
  | r => (none, fragment r)

def afterAuthority (scheme : List Char) (kind : SchemeKind) (authority : Option Authority)
    (cs : List Char) : Url :=
  let (path, tail) := splitPath cs
  let (query, fragment) := readTail kind tail
  ⟨scheme, authority, .segments (pathAfterAuthority kind path), query, fragment⟩

/-- Reads a URL of a file: the host `localhost` is none, and neither is a drive. -/
def parseFile (scheme cs : List Char) : Except UrlError Url := do
  let nowhere : Option Authority := some ⟨[], [], none⟩
  match cs with
  | a :: b :: r =>
    if isSlash .file a && isSlash .file b then
      let hostText := r.takeWhile fun c => !endsAuthority .file c
      if hostText.isEmpty || isDrive hostText then
        return afterAuthority scheme .file nowhere r
      else
        let host := (← Host.parse hostText).chars
        let rest := r.drop hostText.length
        let host := if host = "localhost".toList then [] else host
        return afterAuthority scheme .file (some ⟨[], host, none⟩) rest
    else return afterAuthority scheme .file nowhere cs
  | _ => return afterAuthority scheme .file nowhere cs

/-- Reads a URL of a scheme that is neither special nor `file`. -/
def parseOther (scheme cs : List Char) : Except UrlError Url := do
  match cs with
  | '/' :: '/' :: r =>
    let (authority, rest) ← splitAuthority scheme .other r
    return afterAuthority scheme .other (some authority) rest
  | '/' :: _ => return afterAuthority scheme .other none cs
  | _ =>
    let (path, tail) := splitPath cs
    let (query, fragment) := readTail .other tail
    return ⟨scheme, none, .opaquePath (Percent.encode [] path), query, fragment⟩

def parse (s : String) : Except UrlError Url :=
  match splitScheme? (clean s.toList) with
  | none => .error .relative
  | some (scheme, rest) =>
    match SchemeKind.of scheme with
    | .file => parseFile scheme rest
    | .other => parseOther scheme rest
    | .special => do
      let (authority, rest) ← splitAuthority scheme .special (rest.dropWhile (isSlash .special))
      return afterAuthority scheme .special (some authority) rest

end Url

end EndpointClient
