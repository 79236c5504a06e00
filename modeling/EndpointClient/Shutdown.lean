/-!
# EndpointClient.Shutdown

The signal that tells long-running work to end. Any number of handles may give it, any number of
listeners hear it, each in its own time.

* The channel keeps one signal. A listener that was slower hears once how many it missed, and then
  the one that is kept.
* `Shutdown.trigger` gives the signal; without listeners nothing is given and nothing kept.
* `Listener.receive` hears what there is to hear now.
-/

namespace EndpointClient

/-- The channel of the signal: the signals given so far, and how many listen and may give. -/
structure Shutdown where
  given : Nat
  listeners : Nat
  handles : Nat
  deriving DecidableEq, Repr

/-- A listener, with the number of signals it has heard or missed. -/
structure Listener where
  heard : Nat
  deriving DecidableEq, Repr

/-- What a listener hears. -/
inductive Heard where
  | signal
  | missed (n : Nat)
  | nothingYet
  | closed
  deriving DecidableEq, Repr

namespace Shutdown

/-- A channel with one handle and no listeners. -/
def new : Shutdown := ⟨0, 0, 1⟩

/-- A new listener. It hears the signals given from now on. -/
def subscribe (s : Shutdown) : Shutdown × Listener :=
  ({ s with listeners := s.listeners + 1 }, ⟨s.given⟩)

/-- Gives the signal, and says whether anyone listens. -/
def trigger (s : Shutdown) : Shutdown × Bool :=
  if s.listeners = 0 then (s, false) else ({ s with given := s.given + 1 }, true)

def triggerTimes : Nat → Shutdown → Shutdown
  | 0, s => s
  | n + 1, s => triggerTimes n s.trigger.1

def clone (s : Shutdown) : Shutdown := { s with handles := s.handles + 1 }

def dropHandle (s : Shutdown) : Shutdown := { s with handles := s.handles - 1 }

def dropListener (s : Shutdown) : Shutdown := { s with listeners := s.listeners - 1 }

end Shutdown

def Listener.receive (l : Listener) (s : Shutdown) : Heard × Listener :=
  match s.given - l.heard with
  | 0 => (if s.handles = 0 then .closed else .nothingYet, l)
  | 1 => (.signal, ⟨s.given⟩)
  | n + 2 => (.missed (n + 1), ⟨s.given - 1⟩)

end EndpointClient
