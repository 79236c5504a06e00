import EndpointClient.Observe.Log
import EndpointClient.Text.Decimal
import EndpointClient.Text.Split

/-!
# EndpointClient.Observe.Filter

Which log events are let through: a list of directives, each for a part of the program or for all of
it.

* `LogFilter.parse` reads `part=level,part=level,…`. What cannot be read is left out.
* `LogFilter.admits` goes by the directive for the smallest part that an event belongs to.
-/

namespace EndpointClient

/-- A directive: the part that it is for, all parts if none is named, and the least urgent level
that it lets through, none if it lets nothing through. -/
structure FilterDirective where
  target : Option (List Char)
  level : Option LogLevel
  deriving DecidableEq, Repr

/-- Directives in the order in which they were given. -/
structure LogFilter where
  directives : List FilterDirective
  deriving DecidableEq, Repr

namespace LogLevel

/-- The levels, the most urgent first, which is the order of their numbers. -/
def all : List LogLevel := [.error, .warn, .info, .debug, .trace]

/-- Reads a level, in any case or as a number: `off` and 0 let nothing through. -/
def readThreshold? (cs : List Char) : Option (Option LogLevel) :=
  let lower := cs.map Char.toLower
  match cs with
  | ['0'] => some none
  | _ =>
    if lower = "off".toList then some none
    else
      ((all.zip (List.range all.length)).find? fun (l, i) =>
        l.name.toList.map Char.toLower = lower || cs = Text.natText (i + 1)).map fun x => some x.1

end LogLevel

namespace FilterDirective

def isTargetChar (c : Char) : Bool := c.isAlphanum || c == '_' || c == ':' || c == '-'

def isTarget (cs : List Char) : Bool := !cs.isEmpty && cs.all isTargetChar

/-- Reads a directive: a part with a level, a level alone, or a part alone, of which everything is
let through. -/
def parse? (cs : List Char) : Option FilterDirective :=
  match cs.span (· ≠ '=') with
  | (target, _ :: level) =>
    if !isTarget target then none
    else if level.isEmpty then some ⟨some target, some .trace⟩
    else (LogLevel.readThreshold? level).map fun l => ⟨some target, l⟩
  | (word, []) =>
    match LogLevel.readThreshold? word with
    | some l => some ⟨none, l⟩
    | none => if isTarget word then some ⟨some word, some .trace⟩ else none

def isFor (d : FilterDirective) (target : List Char) : Bool :=
  d.target.all (·.isPrefixOf target)

def specificity (d : FilterDirective) : Nat := d.target.elim 0 (·.length + 1)

/-- Of two directives the one for the smaller part, the later one if they are for the same. -/
def prefer (best : Option FilterDirective) (d : FilterDirective) : Option FilterDirective :=
  match best with
  | some b => if b.specificity ≤ d.specificity then some d else some b
  | none => some d

end FilterDirective

namespace LogFilter

def parse (s : String) : LogFilter := ⟨(Text.splitAt ',' s.toList).filterMap FilterDirective.parse?⟩

def admits (f : LogFilter) (target : String) (e : LogEvent) : Bool :=
  match (f.directives.filter (·.isFor target.toList)).foldl FilterDirective.prefer none with
  | some ⟨_, some l⟩ => l.rank ≤ e.level.rank
  | _ => false

end LogFilter

end EndpointClient
