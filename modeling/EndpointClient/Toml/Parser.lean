import EndpointClient.Toml.Document
import EndpointClient.Toml.Scalar
import EndpointClient.Toml.Text

/-!
# EndpointClient.Toml.Parser

Reading TOML documents.

* `Toml.parse` reads a whole document as the entries of its outermost table.
* Arrays and braces may be nested up to a depth, and keys may have as many parts.
-/

namespace EndpointClient.Toml

/-- The depth that is too much for values, and the number of parts that is too much for keys. -/
def depthLimit : Nat := 80

/-- A malformed text, where a reader gave nothing. -/
def orMalformed {α : Type} : Option α → Except TomlError α
  | some x => .ok x
  | none => .error .malformed

def isKeyChar (c : Char) : Bool := c.isAlphanum || c == '-' || c == '_'

def readKeyPart (cs : List Char) : Option (String × List Char) :=
  match cs with
  | '"' :: _ => readLineText cs
  | '\'' :: _ => readLineText cs
  | cs =>
    match cs.span isKeyChar with
    | ([], _) => none
    | (key, r) => some (String.ofList key, r)

/-- The parts of a key, parted by points, with blanks around each. -/
def readKeyParts : (fuel : Nat) → List Char → Option (List String × List Char)
  | 0, _ => none
  | n + 1, cs => do
    let (part, r) ← readKeyPart (skipBlanks cs)
    match skipBlanks r with
    | '.' :: r' => (readKeyParts n r').map fun (parts, r) => (part :: parts, r)
    | r' => some ([part], r')

/-- A key: the parts before the last one, and the last one. -/
def readKey (cs : List Char) : Except TomlError ((List String × String) × List Char) := do
  let (parts, r) ← orMalformed (readKeyParts (cs.length + 1) cs)
  if depthLimit ≤ parts.length then throw .tooDeep
  match parts.getLast? with
  | some key => return ((parts.dropLast, key), r)
  | none => throw .malformed

/-- Drops a comment, if there is one; `none` if it holds a control. -/
def skipComment : List Char → Option (List Char)
  | '#' :: r =>
    match r.dropWhile isPlain with
    | [] => some []
    | '\n' :: r' => some ('\n' :: r')
    | '\r' :: '\n' :: r' => some ('\r' :: '\n' :: r')
    | _ => none
  | cs => some cs

def skipFiller : (fuel : Nat) → List Char → Option (List Char)
  | 0, _ => none
  | n + 1, cs =>
    match skipBlankLines cs with
    | '#' :: r =>
      match skipComment ('#' :: r) with
      | some r' => skipFiller n r'
      | none => none
    | r => some r

/-- The end of a statement: blanks, a comment or none, and the end of the line or of the text. -/
def readLineEnd (cs : List Char) : Option (List Char) := do
  match ← skipComment (skipBlanks cs) with
  | [] => some []
  | r => readNewline r

/-- A value that holds no others. -/
def readScalar (cs : List Char) : Option (Value × List Char) :=
  match cs with
  | '"' :: _ => (readText cs).map fun (s, r) => (.string s, r)
  | '\'' :: _ => (readText cs).map fun (s, r) => (.string s, r)
  | 't' :: 'r' :: 'u' :: 'e' :: r => some (.boolean true, r)
  | 'f' :: 'a' :: 'l' :: 's' :: 'e' :: r => some (.boolean false, r)
  | cs => readNumberOrDate cs

mutual

/-- A value, so many levels deep. -/
def readValue : (fuel depth : Nat) → List Char → Except TomlError (Value × List Char)
  | 0, _, _ => throw .malformed
  | n + 1, depth, cs =>
    match cs with
    | '[' :: r => if depthLimit ≤ depth + 1 then throw .tooDeep else readItems n (depth + 1) r []
    | '\x7b' :: r =>
      if depthLimit ≤ depth + 1 then throw .tooDeep
      else
        match skipBlanks r with
        | '\x7d' :: r' => return (.table [], r')
        | r' => readBraces n (depth + 1) r' []
    | cs => orMalformed (readScalar cs)

def readItems : (fuel depth : Nat) → List Char → (acc : List Value) →
    Except TomlError (Value × List Char)
  | 0, _, _, _ => throw .malformed
  | n + 1, depth, cs, acc =>
    match skipFiller (cs.length + 1) cs with
    | none => throw .malformed
    | some (']' :: r) => return (.array acc.reverse, r)
    | some r => do
      let (v, r) ← readValue n depth r
      match skipFiller (r.length + 1) r with
      | some (',' :: r) => readItems n depth r (v :: acc)
      | some (']' :: r) => return (.array (v :: acc).reverse, r)
      | _ => throw .malformed

/-- The entries between braces and the closing brace. -/
def readBraces : (fuel depth : Nat) → List Char → Entries → Except TomlError (Value × List Char)
  | 0, _, _, _ => throw .malformed
  | n + 1, depth, cs, entries => do
    let ((path, key), r) ← readKey cs
    let r ← orMalformed (readChar '=' r)
    let (v, r) ← readValue n depth (skipBlanks r)
    let entries ← Entries.set path key v .header entries
    match skipBlanks r with
    | ',' :: r => readBraces n depth r entries
    | '\x7d' :: r => return (.table (entryValues entries), r)
    | _ => throw .malformed

end

/-- What has been read of a document: its entries, and the header that further ones go under. -/
structure Reading where
  entries : Entries := []
  header : List String := []

def readHeader (double : Bool) (cs : List Char) (s : Reading) :
    Except TomlError (Reading × List Char) := do
  let ((path, key), r) ← readKey cs
  let r ← orMalformed (readChar ']' r)
  let r ← orMalformed (if double then readChar ']' r else some r)
  let r ← orMalformed (readLineEnd r)
  let entries ←
    if double then Entries.openElement path key s.entries else Entries.openTable path key s.entries
  return (⟨entries, path ++ [key]⟩, r)

def readEntry (cs : List Char) (s : Reading) : Except TomlError (Reading × List Char) := do
  let ((path, key), r) ← readKey cs
  let r ← orMalformed (readChar '=' r)
  let (v, r) ← readValue (r.length + 1) 0 (skipBlanks r)
  let r ← orMalformed (readLineEnd r)
  return ({ s with entries := ← Entries.setUnder s.header path key v s.entries }, r)

def readStatements : (fuel : Nat) → List Char → Reading → Except TomlError Reading
  | 0, _, _ => throw .malformed
  | n + 1, cs, s => do
    match ← orMalformed (skipFiller (cs.length + 1) cs) with
    | [] => return s
    | '[' :: '[' :: r => do
      let (s, r) ← readHeader true r s
      readStatements n r s
    | '[' :: r => do
      let (s, r) ← readHeader false r s
      readStatements n r s
    | r => do
      let (s, r) ← readEntry r s
      readStatements n r s

def dropMark : List Char → List Char
  | '\uFEFF' :: r => r
  | cs => cs

def parse (s : String) : Except TomlError (List (String × Value)) := do
  let cs := dropMark s.toList
  let r ← readStatements (cs.length + 1) cs {}
  return entryValues r.entries

end EndpointClient.Toml
