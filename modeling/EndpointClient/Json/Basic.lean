import EndpointClient.Text.Decimal
import EndpointClient.Word

/-!
# EndpointClient.Json.Basic

JSON values. An integer literal keeps its value whatever its size; a literal with a fraction or an
exponent is a decimal, also when its value is whole.

* `Json.asInt64?` is the value of an integer that 64 bits with a sign can hold.
* `Json.get?` looks a key of an object up; of equal keys the last one counts.
-/

namespace EndpointClient

/-- A JSON value. A decimal is `mantissa * 10 ^ exponent`. -/
inductive Json where
  | null
  | bool (b : Bool)
  | integer (n : Int)
  | decimal (mantissa : Int) (exponent : Int)
  | string (s : String)
  | array (items : List Json)
  | object (fields : List (String × Json))
  deriving Repr, Inhabited

namespace Json

/-- The integer that 64 bits with a sign can hold, if the value is one. -/
def asInt64? : Json → Option Int
  | .integer n => if Word.holdsSigned n then some n else none
  | _ => none

/-- The value of a key, if the value is an object that has the key. -/
def get? (key : String) : Json → Option Json
  | .object fields => (fields.reverse.find? (·.1 == key)).map (·.2)
  | _ => none

/-- The items of an array; anything else has none. -/
def items : Json → List Json
  | .array xs => xs
  | _ => []

/-- The fields of an object; anything else has none. -/
def fields : Json → List (String × Json)
  | .object xs => xs
  | _ => []

def string? : Json → Option String
  | .string s => some s
  | _ => none

def int? : Json → Option Int
  | .integer n => some n
  | _ => none

def nat? : Json → Option Nat
  | .integer n => if 0 ≤ n then some n.toNat else none
  | _ => none

def bool? : Json → Option Bool
  | .bool b => some b
  | _ => none

end Json

end EndpointClient
