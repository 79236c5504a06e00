/-!
# EndpointClient.Toml.Value

Values of TOML documents. The numbers of floats and the parts of dates are not looked at: both keep
the text they are written with.

* `Value.get?` looks a key of a table up.
-/

namespace EndpointClient.Toml

/-- A value. The keys of a table differ from one another. -/
inductive Value where
  | string (s : String)
  | integer (n : Int)
  | float (literal : String)
  | boolean (b : Bool)
  | dateTime (literal : String)
  | array (items : List Value)
  | table (entries : List (String × Value))
  deriving Inhabited

def find? (key : String) (entries : List (String × Value)) : Option Value :=
  (entries.find? (·.1 == key)).map (·.2)

end EndpointClient.Toml
