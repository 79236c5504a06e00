import EndpointClient.Request
import EndpointClient.Text.Quoted

/-!
# EndpointClient.Request.Debug

Requests as diagnostics show them: all parts but the entity, of which only is said whether it is
there.
-/

namespace EndpointClient

namespace Json

/-- The number `mantissa * 10 ^ exponent`, with one digit at least after the point. -/
def decimalText (mantissa exponent : Int) : String :=
  let sign := if mantissa < 0 then ['-'] else []
  let m := mantissa.natAbs
  let body :=
    if 0 ≤ exponent then Text.natText (m * Text.tenTo exponent.toNat) ++ ['.', '0']
    else
      let width := exponent.natAbs
      let fraction := Text.fractionText width (m % Text.tenTo width)
      Text.natText (m / Text.tenTo width) ++ if fraction.isEmpty then ['.', '0'] else fraction
  String.ofList (sign ++ body)

/-- The text of a value in diagnostics: each with the name of its sort. -/
def debugText : Json → String
  | .null => "Null"
  | .bool b => "Bool(" ++ (if b then "true" else "false") ++ ")"
  | .integer n => "Number(" ++ String.ofList (Text.intText n) ++ ")"
  | .decimal m e => "Number(" ++ decimalText m e ++ ")"
  | .string s => "String(" ++ Text.quote s ++ ")"
  | .array xs => "Array [" ++ ", ".intercalate (itemTexts xs) ++ "]"
  | .object fs => "Object \x7b" ++ ", ".intercalate (fieldTexts fs) ++ "\x7d"
where
  /-- The texts of items. -/
  itemTexts : List Json → List String
    | [] => []
    | x :: xs => debugText x :: itemTexts xs
  /-- The texts of fields. -/
  fieldTexts : List (String × Json) → List String
    | [] => []
    | (k, v) :: fs => (Text.quote k ++ ": " ++ debugText v) :: fieldTexts fs

end Json

/-- One byte of a header value in diagnostics: as it is if it shows, else as its number. -/
def Http.HeaderValue.debugByte (b : UInt8) : List Char :=
  if b = 0x22 then ['\\', '"']
  else if isVisibleByte b then [Char.ofNat b.toNat]
  else ['\\', 'x'] ++ Text.hexText b.toNat

def Http.HeaderValue.debugText (v : Http.HeaderValue) : String :=
  String.ofList ('"' :: v.bytes.flatMap debugByte ++ ['"'])

def ClientRequest.debugText (r : ClientRequest) : String :=
  let headers := r.headers.toList.map fun f => Text.quote f.1.text ++ ": " ++ f.2.debugText
  let properties := r.properties.entries.map fun p => Text.quote p.1 ++ ": " ++ p.2.debugText
  "ClientRequest \x7b method: " ++ r.method.text ++ ", uri: " ++ r.uri.text ++
    ", headers: \x7b" ++ ", ".intercalate headers ++ "\x7d, properties: \x7b" ++
    ", ".intercalate properties ++ "\x7d, has_entity: " ++
    (if r.hasEntity then "true" else "false") ++ " \x7d"

end EndpointClient
