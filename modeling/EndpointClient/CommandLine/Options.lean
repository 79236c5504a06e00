/-!
# EndpointClient.CommandLine.Options

Arguments of a command: options with one value each, and the names of further commands.

* `ArgumentForm.of` says how an argument reads by itself; what it means depends on whether an option
  waits for its value (`Reading.waits?`).
* `Reading.take` is one argument, `Grammar.read` all of them.
* An option is settled when the next one comes, or at the end: `Reading.settle` stores its value.
-/

namespace EndpointClient.CommandLine

/-- Why arguments are not carried out. To ask for help is one of the reasons: for a command, or for
the program if none is named. -/
inductive ArgumentFault where
  | helpAsked (command : Option String)
  | nothingGiven
  | noCommand
  | noSuchCommand
  | noSuchOption
  | missingOption
  | missingValue
  | wrongValue
  | surplusValue
  | givenTwice
  deriving DecidableEq, Repr

/-- The code that a command ends with over a fault of its arguments. -/
def ArgumentFault.exitCode : ArgumentFault → Nat
  | .helpAsked _ => 0
  | _ => 2

/-- What the value of an option is called unless something else is said: the option in upper case. -/
def valueNameOf (long : String) : String :=
  String.ofList (long.toList.map fun c => if c == '-' then '_' else c.toUpper)

/-- An option of a command whose arguments are gathered in a `δ`. -/
structure OptionRule (δ : Type) where
  long : String
  short : Option Char := none
  /-- What is said of it in explanations, with the name of its value and the value for those who give
  none. -/
  about : String := ""
  valueName : String := valueNameOf long
  byDefault : Option String := none
  required : Bool := false
  /-- Whether it may be given more than once. -/
  repeatable : Bool := false
  /-- Whether its value may be a negative number in an argument of its own. -/
  negatives : Bool := false
  given : δ → Bool
  store : δ → String → Except ArgumentFault δ

/-- An option whose value is read by `read?`. -/
def OptionRule.of {δ α : Type} (long : String) (read? : String → Option α) (get : δ → Option α)
    (set : δ → α → δ) : OptionRule δ where
  long := long
  given d := (get d).isSome
  store d v :=
    match read? v with
    | some a => .ok (set d a)
    | none => .error .wrongValue

/-- How an argument reads by itself. -/
inductive ArgumentForm where
  | separator
  | long (name : List Char) (value : Option (List Char))
  | short (letter : Char) (rest : List Char)
  | plain
  deriving DecidableEq, Repr

/-- The two sides of the first equals sign. -/
def splitEquals (cs : List Char) : List Char × Option (List Char) :=
  match cs.span (· != '=') with
  | (name, _ :: value) => (name, some value)
  | (name, []) => (name, none)

/-- How an argument reads by itself. A dash alone is plain. -/
def ArgumentForm.of (arg : String) : ArgumentForm :=
  match arg.toList with
  | ['-', '-'] => .separator
  | '-' :: '-' :: cs =>
    let (name, value) := splitEquals cs
    .long name value
  | '-' :: c :: cs => .short c cs
  | _ => .plain

/-- Whether what follows a dash makes a negative number: digits, then perhaps a point and more
digits, then perhaps an exponent mark with digits after it. -/
def isNumber (cs : List Char) : Bool :=
  let (mantissa, exponent) := cs.span (· != 'e')
  let (whole, fraction) := mantissa.span (· != '.')
  !whole.isEmpty && whole.all Char.isDigit && (fraction.drop 1).all Char.isDigit &&
    exponent.length != 1 && (exponent.drop 1).all Char.isDigit

def helpLetter : Char := 'h'

def helpName : String := "help"

/-- The options of a command, and the commands that may follow it. -/
structure Grammar (δ : Type) where
  options : List (OptionRule δ)
  /-- The commands, each with what is said of it. -/
  commands : List (String × String) := []

namespace Grammar

def long? {δ : Type} (g : Grammar δ) (name : List Char) : Option (OptionRule δ) :=
  g.options.find? fun o => o.long.toList == name

def short? {δ : Type} (g : Grammar δ) (letter : Char) : Option (OptionRule δ) :=
  g.options.find? fun o => o.short == some letter

/-- Whether a name is that of a command. Where there are commands, one of them explains them. -/
def isCommand {δ : Type} (g : Grammar δ) (name : String) : Bool :=
  !g.commands.isEmpty && (name == helpName || g.commands.any (·.1 == name))

end Grammar

/-- How far arguments have been read: what is stored, the option still to be settled with its value
if it has one, and whether only plain arguments may follow. -/
structure Reading (δ : Type) where
  draft : δ
  pending : Option (OptionRule δ × Option String)
  plainOnly : Bool

namespace Reading

def start {δ : Type} (draft : δ) : Reading δ := ⟨draft, none, false⟩

def waits? {δ : Type} (r : Reading δ) : Option (OptionRule δ) :=
  match r.pending with
  | some (o, none) => some o
  | _ => none

/-- Stores a value of an option. A second value is a fault before it is looked at. -/
def put {δ : Type} (r : Reading δ) (o : OptionRule δ) (value : String) :
    Except ArgumentFault (Reading δ) :=
  if !o.repeatable && o.given r.draft then .error .givenTwice
  else (o.store r.draft value).map fun d => { r with draft := d }

/-- Stores the value of the option still to be settled. -/
def settle {δ : Type} (r : Reading δ) : Except ArgumentFault (Reading δ) :=
  match r.pending with
  | none => .ok r
  | some (_, none) => .error .missingValue
  | some (o, some v) => put { r with pending := none } o v

/-- Settles what is pending, and asks for help. -/
def help {δ : Type} (r : Reading δ) : Except ArgumentFault (Reading δ) :=
  r.settle.bind fun _ => .error (.helpAsked none)

/-- Begins an option, with the value attached to it if there is one. -/
def begin {δ : Type} (r : Reading δ) (o : OptionRule δ) (value : Option (List Char)) :
    Except ArgumentFault (Reading δ) := do
  let r ← r.settle
  match value with
  | some v => r.put o (String.ofList v)
  | none => return { r with pending := some (o, none) }

/-- What is wrong with a plain argument that is nobody's value. -/
def strayFault {δ : Type} (g : Grammar δ) (r : Reading δ) (arg : String) : ArgumentFault :=
  if g.commands.isEmpty || (r.plainOnly && g.isCommand arg) then .noSuchOption else .noSuchCommand

/-- A plain argument is the value of the option that waits. -/
def takePlain {δ : Type} (g : Grammar δ) (r : Reading δ) (arg : String) :
    Except ArgumentFault (Reading δ) :=
  match r.waits? with
  | some o => .ok { r with pending := some (o, some arg) }
  | none => .error (r.strayFault g arg)

/-- One argument that names no command. -/
def take {δ : Type} (g : Grammar δ) (r : Reading δ) (arg : String) :
    Except ArgumentFault (Reading δ) :=
  if r.plainOnly then .error (r.strayFault g arg)
  else
    match ArgumentForm.of arg with
    | .separator => .ok { r with plainOnly := true }
    | .long name value =>
      match g.long? name with
      | some o => r.begin o value
      | none =>
        if name != helpName.toList then .error .noSuchOption
        else if value.isSome then .error .surplusValue
        else r.help
    | .short letter rest =>
      if r.waits?.any (·.negatives) && isNumber (letter :: rest) then r.takePlain g arg
      else
        match g.short? letter with
        | some o =>
          match rest with
          | [] => r.begin o none
          | '=' :: value => r.begin o (some value)
          | value => r.begin o (some value)
        | none => if letter == helpLetter then r.help else .error .noSuchOption
    | .plain => r.takePlain g arg

end Reading

/-- The command found among arguments, with the arguments that are its own. -/
structure Found where
  command : String
  arguments : List String
  deriving DecidableEq, Repr

/-- What a request to explain commands comes to: it may name one of them. -/
def Grammar.explain {δ : Type} (g : Grammar δ) : List String → ArgumentFault
  | [] => .helpAsked none
  | [name] => if g.isCommand name then .helpAsked (some name) else .noSuchCommand
  | _ => .noSuchCommand

/-- Reads arguments up to a command or to the end. What is pending is left so: the arguments of the
command are read before it is settled. -/
def Grammar.read {δ : Type} (g : Grammar δ) : Reading δ → List String →
    Except ArgumentFault (Reading δ × Option Found)
  | r, [] => .ok (r, none)
  | r, arg :: rest =>
    if !r.plainOnly && r.waits?.isNone && g.isCommand arg then
      if arg == helpName then .error (g.explain rest) else .ok (r, some ⟨arg, rest⟩)
    else
      match r.take g arg with
      | .ok r => Grammar.read g r rest
      | .error e => .error e

def Grammar.readAll {δ : Type} (g : Grammar δ) (draft : δ) (args : List String) :
    Except ArgumentFault δ := do
  let (r, _) ← g.read (.start draft) args
  return (← r.settle).draft

end EndpointClient.CommandLine
