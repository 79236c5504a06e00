import EndpointClient.Rehearsal.Step

/-!
# EndpointClient.Rehearsal.Run

Time in a rehearsal: tasks run as long as any can, and then the clock jumps to the next time that
one of them waits for.

* `World.await` runs until the foreground is done.
-/

namespace EndpointClient.Rehearsal

namespace World

/-- Tasks that wait and can go on become ready, the earliest first. -/
def wake (w : World) : World :=
  let (woken, still) := w.blocked.partition w.canStep
  { w with ready := w.ready ++ woken, blocked := still }

def nextDeadline? (w : World) : Option Nat := ((Task.front :: w.blocked).filterMap w.deadline?).min?

/-- The milliseconds that nothing in a rehearsal waits longer than. -/
def longestWait : Nat := 40000000000

/-- Jumps to the next time that a task waits for, unless that is past a limit. -/
def jump (w : World) (limit : Nat) : World :=
  match w.nextDeadline? with
  | some t =>
    if t ≤ limit then { w with now := max w.now t, running := some .front }.wake
    else { w with stuck := true }
  | none => { w with stuck := true }

/-- One turn: a step of the task that runs, or another task in its place. Says whether the
foreground is done. -/
def turn (w : World) (limit : Nat) : World × Bool :=
  match w.running with
  | none =>
    match w.ready with
    | t :: rest => ({ w with ready := rest, running := some t }, false)
    | [] => ({ w with running := some .front }, false)
  | some t =>
    match w.step t with
    | .moved w => (w.wake, false)
    | .ended w => ({ w with running := none }.wake, t = .front)
    | .blocked =>
      if t ≠ .front then ({ w with running := none, blocked := w.blocked ++ [t] }, false)
      else if w.ready.isEmpty then (w.jump limit, false)
      else ({ w with running := none }, false)

/-- Takes turns until the foreground is done or nothing can go on. -/
def turns (limit : Nat) : Nat → World → World
  | 0, w => { w with stuck := true }
  | n + 1, w =>
    if w.stuck then w
    else
      match w.turn limit with
      | (w, true) => w
      | (w, false) => turns limit n w

/-- Enough turns for any rehearsal. -/
def manyTurns : Nat := 1000000000

/-- Waits until the foreground is done. -/
def await (w : World) (f : Foreground) : World :=
  turns (w.now + longestWait) manyTurns { w with front := f, running := some .front }.wake

end World

end EndpointClient.Rehearsal
