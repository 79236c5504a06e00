import EndpointClient.Toml.Value

/-!
# EndpointClient.Toml.Document

Documents under construction. A table knows how it came to be, for that decides what may still be
added to it: by a header of its own, by a header of a table within it, or by a dotted key.

* `Entries.openTable` and `Entries.openElement` are the headers `[a.b]` and `[[a.b]]`.
* `Entries.setUnder` is an entry `x.y = v` under the header read last.
* `Entries.values` is the finished table.
-/

namespace EndpointClient.Toml

inductive TomlError where
  | malformed
  | duplicateKey (key : String)
  | notATable (key : String)
  | tooDeep
  deriving DecidableEq, Repr

/-- How a table came to be: by its own header or braces, on the way to a table within it, or on the
way of a dotted key. -/
inductive TableOrigin where
  | header
  | implied
  | dotted
  deriving DecidableEq, Repr

/-- What stands at a key: a value, a table, or the tables that a double header makes. -/
inductive Item where
  | value (v : Value)
  | table (origin : TableOrigin) (entries : List (String × Item))
  | elements (tables : List (List (String × Item)))

abbrev Entries := List (String × Item)

/-- Changes the item at a key, or adds one. -/
def updateEntry (key : String) (f : Option Item → Except TomlError Item) :
    Entries → Except TomlError Entries
  | [] => do return [(key, ← f none)]
  | (k, i) :: rest =>
    if k = key then do return (k, ← f (some i)) :: rest
    else do return (k, i) :: (← updateEntry key f rest)

/-- Changes the last table of a double header. -/
def updateLast (f : Entries → Except TomlError Entries) :
    List Entries → Except TomlError (List Entries)
  | [] => return []
  | [t] => do return [← f t]
  | t :: ts => do return t :: (← updateLast f ts)

/-- Goes down a path of tables, making those that are missing, and changes the one at its end. A
dotted key makes dotted tables and passes no table that has a header of its own. -/
def descend (dotted : Bool) (act : TableOrigin → Entries → Except TomlError Entries) :
    List String → TableOrigin → Entries → Except TomlError Entries
  | [], origin, entries => act origin entries
  | key :: path, _, entries =>
    updateEntry key (fun item =>
      match item with
      | none => do
        let origin := if dotted then TableOrigin.dotted else .implied
        return .table origin (← descend dotted act path origin [])
      | some (.value _) => throw (.notATable key)
      | some (.elements ts) => do
        return .elements (← updateLast (descend dotted act path .header) ts)
      | some (.table origin es) =>
        if dotted && origin = .header then throw (.duplicateKey key)
        else do return .table origin (← descend dotted act path origin es)) entries

namespace Entries

/-- Adds an entry whose key may be dotted. The table that it goes into must have been made by
dotted keys, if the key is one. -/
def set (path : List String) (key : String) (v : Value) (origin : TableOrigin) (entries : Entries) :
    Except TomlError Entries :=
  descend true (fun origin es =>
    if !path.isEmpty && origin ≠ .dotted then throw (.duplicateKey key)
    else
      updateEntry key (fun item =>
        match item with
        | none => return .value v
        | some _ => throw (.duplicateKey key)) es) path origin entries

def setUnder (header path : List String) (key : String) (v : Value) (entries : Entries) :
    Except TomlError Entries :=
  descend false (fun _ es => set path key v .header es) header .header entries

/-- The header of a table. It may have been implied before, and nothing else. -/
def openTable (path : List String) (key : String) (entries : Entries) : Except TomlError Entries :=
  descend false (fun _ es =>
    updateEntry key (fun item =>
      match item with
      | none => return .table .header []
      | some (.table .implied es) => return .table .header es
      | some _ => throw (.duplicateKey key)) es) path .header entries

def openElement (path : List String) (key : String) (entries : Entries) : Except TomlError Entries :=
  descend false (fun _ es =>
    updateEntry key (fun item =>
      match item with
      | none => return .elements [[]]
      | some (.elements ts) => return .elements (ts ++ [[]])
      | some _ => throw (.duplicateKey key)) es) path .header entries

end Entries

mutual

def Item.toValue : Item → Value
  | .value v => v
  | .table _ es => .table (entryValues es)
  | .elements ts => .array (elementValues ts)

def entryValues : List (String × Item) → List (String × Value)
  | [] => []
  | (k, i) :: rest => (k, i.toValue) :: entryValues rest

def elementValues : List (List (String × Item)) → List Value
  | [] => []
  | t :: rest => .table (entryValues t) :: elementValues rest

end

end EndpointClient.Toml
