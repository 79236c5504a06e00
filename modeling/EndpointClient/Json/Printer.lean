import EndpointClient.Json.Basic

/-!
# EndpointClient.Json.Printer

The text of a JSON value, without blanks, on one line.
-/

namespace EndpointClient.Json

def charText (c : Char) : List Char :=
  match c with
  | '"' => ['\\', '"']
  | '\\' => ['\\', '\\']
  | c =>
    if c.toNat < 0x20 || c.toNat == 0x7F then
      let d := Nat.toDigits 16 c.toNat
      ['\\', 'u'] ++ List.replicate (4 - d.length) '0' ++ d
    else [c]

def stringText (s : String) : String :=
  String.ofList ('"' :: s.toList.flatMap charText ++ ['"'])

def text : Json → String
  | .null => "null"
  | .bool b => if b then "true" else "false"
  | .integer n => String.ofList (Text.intText n)
  | .decimal m e => String.ofList (Text.intText m ++ 'e' :: Text.intText e)
  | .string s => stringText s
  | .array xs => "[" ++ ",".intercalate (itemTexts xs) ++ "]"
  | .object fs => "\x7b" ++ ",".intercalate (fieldTexts fs) ++ "\x7d"
where
  /-- The texts of items. -/
  itemTexts : List Json → List String
    | [] => []
    | x :: xs => text x :: itemTexts xs
  /-- The texts of fields. -/
  fieldTexts : List (String × Json) → List String
    | [] => []
    | (k, v) :: fs => (stringText k ++ ":" ++ text v) :: fieldTexts fs

end EndpointClient.Json
