import EndpointClient.Url.Host

/-!
# EndpointClient.Url.Basic

URLs and their texts.

* `Url.text` is the text of a URL, `Url.resourceChars` the part of it from the path on.
* `Url.effectivePort?` is the port written, or else the usual one of the scheme.
-/

namespace EndpointClient

/-- What sort of scheme it is: `file`, another one with rules of its own, or any other. -/
inductive SchemeKind where
  | file
  | special
  | other
  deriving DecidableEq, Repr

def usualPort? (scheme : List Char) : Option Nat :=
  match String.ofList scheme with
  | "http" => some 80
  | "ws" => some 80
  | "https" => some 443
  | "wss" => some 443
  | "ftp" => some 21
  | _ => none

def SchemeKind.of (scheme : List Char) : SchemeKind :=
  if scheme = "file".toList then .file
  else if (usualPort? scheme).isSome then .special
  else .other

/-- Whether backslashes part segments, and the path is never empty. -/
def SchemeKind.isSpecial : SchemeKind → Bool
  | .other => false
  | _ => true

/-- The path of a URL: segments, or a text that has none. -/
inductive UrlPath where
  | segments (ss : List (List Char))
  | opaquePath (cs : List Char)
  deriving DecidableEq

def UrlPath.chars : UrlPath → List Char
  | .segments ss => ss.flatMap ('/' :: ·)
  | .opaquePath cs => cs

/-- What stands before the path: user information with its `@`, the host, and the port if it is not
the usual one. -/
structure Authority where
  user : List Char
  host : List Char
  port : Option Nat
  deriving DecidableEq

structure Url where
  scheme : List Char
  authority : Option Authority
  path : UrlPath
  query : Option (List Char)
  fragment : Option (List Char)
  deriving DecidableEq

namespace Url

/-- The host; nothing if there is none. -/
def hostChars (u : Url) : List Char := u.authority.elim [] (·.host)

/-- The port written, or else the usual one of the scheme. -/
def effectivePort? (u : Url) : Option Nat :=
  (u.authority.bind (·.port)).or (usualPort? u.scheme)

def resourceChars (u : Url) : List Char :=
  u.path.chars ++ u.query.elim [] ('?' :: ·) ++ u.fragment.elim [] ('#' :: ·)

def authorityChars (a : Authority) : List Char :=
  a.user ++ a.host ++ a.port.elim [] fun p => ':' :: Text.natText p

/-- The part before the path. A path that starts with two slashes after no authority has `/.` before
it, so that it is not taken for one. -/
def frontChars (u : Url) : List Char :=
  u.scheme ++ ':' ::
    match u.authority with
    | some a => '/' :: '/' :: authorityChars a
    | none =>
      match u.path with
      | .segments ([] :: _ :: _) => ['/', '.']
      | _ => []

def text (u : Url) : String := String.ofList (u.frontChars ++ u.resourceChars)

end Url

end EndpointClient
