import EndpointClient.Text.Normalization
import EndpointClient.Url.Idna.Context
import EndpointClient.Url.Idna.Mapping
import EndpointClient.Url.Punycode

/-!
# EndpointClient.Url.Idna

Domain names of any script, in the ASCII form that is looked up.

* `Idna.toAscii?` is that form: characters are mapped and normalized, and each label that is not
  ASCII is encoded after `xn--`. A label that comes encoded must stand for one that is valid.
-/

namespace EndpointClient.Idna

/-- The ASCII characters that no name may hold: the controls, the blank, and those with a meaning
in URLs. -/
def isDenied (c : Char) : Bool :=
  c.toNat ≤ 0x20 || c.toNat == 0x7F || "%#/:<>?@[\\]^|".toList.contains c

def isAscii (cs : List Char) : Bool := cs.all (·.toNat < 0x80)

def labels (cs : List Char) : List (List Char) :=
  let (last, rest) := cs.foldr (fun c (acc : List Char × List (List Char)) =>
    if c == '.' then ([], acc.1 :: acc.2) else (c :: acc.1, acc.2)) ([], [])
  last :: rest

/-- Whether a label in its own script may be: it starts with no mark, and joiners stand where they
may. -/
def isGoodLabel (label : List Char) : Bool :=
  !label.head?.any isMark && joinersOk label

/-- A label in its own script and in ASCII. -/
structure LabelForms where
  script : List Char
  ascii : List Char

def labelForms? (label : List Char) : Option LabelForms :=
  match label with
  | 'x' :: 'n' :: '-' :: '-' :: encoded => do
    let decoded ← Punycode.decode? encoded
    if !isAscii decoded && Text.normalize decoded = decoded && decoded.all isValidChar &&
        isGoodLabel decoded then
      return ⟨decoded, label⟩
    else none
  | label =>
    if isAscii label then some ⟨label, label⟩
    else if isGoodLabel label then some ⟨label, ['x', 'n', '-', '-'] ++ Punycode.encode label⟩
    else none

def toAscii? (name : List Char) : Option (List Char) := do
  let mapped ← name.mapM mapChar?
  let normalized := Text.normalize mapped.flatten
  if normalized.any isDenied then none
  let forms ← (labels normalized).mapM labelForms?
  let scripts := forms.map (·.script)
  if scripts.any hasRightToLeft && !scripts.all bidiOk then none
  return ['.'].intercalate (forms.map (·.ascii))

end EndpointClient.Idna
