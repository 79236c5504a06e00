import EndpointClient.Text.Printable

/-!
# EndpointClient.Text.Quoted

A text between double quotes, as diagnostics show it: quotes, backslashes, line breaks and tabs are
escaped with a backslash, characters that do not print as their number.

* `quote` writes a text so.
-/

namespace EndpointClient.Text

def hexText (n : Nat) : List Char := Nat.toDigits 16 n

def quoteChar (c : Char) : List Char :=
  match c with
  | '\x00' => ['\\', '0']
  | '\t' => ['\\', 't']
  | '\n' => ['\\', 'n']
  | '\r' => ['\\', 'r']
  | '"' => ['\\', '"']
  | '\\' => ['\\', '\\']
  | c => if isPrintable c then [c] else ['\\', 'u', '\x7b'] ++ hexText c.toNat ++ ['\x7d']

def quote (s : String) : String :=
  String.ofList ('"' :: s.toList.flatMap quoteChar ++ ['"'])

end EndpointClient.Text
