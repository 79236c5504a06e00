import EndpointClient.Shutdown

/-!
# EndpointClient.Rehearsal.ShutdownScript

Scripts played on a shutdown signal, with named handles and named listeners.

* `ShutdownBench.play` plays a script.
-/

namespace EndpointClient.Rehearsal

/-- A step on the signal. Handles are named by `on`, listeners and new handles by `id`. -/
inductive ShutdownStep where
  | subscribe (on id : String)
  | trigger (on : String)
  | count (on : String)
  | clone (on id : String)
  | dropHandle (on : String)
  | receive (id : String)
  | dropListener (id : String)

inductive ShutdownAnswer where
  | done
  | gone
  | flag (b : Bool)
  | count (n : Nat)
  | heard (h : Heard)

/-- The signal, its handles and its listeners. -/
structure ShutdownBench where
  signal : Shutdown
  handles : List String
  listeners : List (String × Listener)

namespace ShutdownBench

def start (name : String) : ShutdownBench := ⟨.new, [name], []⟩

/-- Takes a listener away, if there is one of the name. -/
def dropListener (b : ShutdownBench) (id : String) : ShutdownBench :=
  if b.listeners.any (·.1 == id) then
    { b with signal := b.signal.dropListener, listeners := b.listeners.filter (·.1 != id) }
  else b

/-- Takes a handle away, if there is one of the name. -/
def dropHandle (b : ShutdownBench) (name : String) : ShutdownBench :=
  if b.handles.contains name then
    { b with signal := b.signal.dropHandle, handles := b.handles.filter (· != name) }
  else b

/-- A step through a handle, which has to be there. -/
def through (b : ShutdownBench) (on : String) (act : ShutdownBench → ShutdownBench × ShutdownAnswer) :
    ShutdownBench × ShutdownAnswer :=
  if b.handles.contains on then act b else (b, .gone)

def step (b : ShutdownBench) : ShutdownStep → ShutdownBench × ShutdownAnswer
  | .subscribe on id => b.through on fun b =>
      let (signal, l) := b.signal.subscribe
      let b := { b with signal }.dropListener id
      ({ b with listeners := (id, l) :: b.listeners }, .done)
  | .trigger on => b.through on fun b =>
      let (signal, heard) := b.signal.trigger
      ({ b with signal }, .flag heard)
  | .count on => b.through on fun b => (b, .count b.signal.listeners)
  | .clone on id => b.through on fun b =>
      let b := { b with signal := b.signal.clone }.dropHandle id
      ({ b with handles := id :: b.handles }, .done)
  | .dropHandle on => (b.dropHandle on, .flag (b.handles.contains on))
  | .receive id =>
    match b.listeners.find? (·.1 == id) with
    | none => (b, .gone)
    | some (_, l) =>
      let (h, l') := l.receive b.signal
      ({ b with listeners := b.listeners.map fun x => if x.1 == id then (id, l') else x }, .heard h)
  | .dropListener id => (b.dropListener id, .flag (b.listeners.any (·.1 == id)))

def play (name : String) (steps : List ShutdownStep) : List ShutdownAnswer :=
  (steps.foldl (fun (acc : ShutdownBench × List ShutdownAnswer) s =>
    let (b, a) := acc.1.step s
    (b, a :: acc.2)) (start name, [])).2.reverse

end ShutdownBench

end EndpointClient.Rehearsal
