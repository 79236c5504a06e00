import EndpointClient.Engine.Link
import EndpointClient.Http.Origin
import EndpointClient.Http.RequestHead

/-!
# EndpointClient.Rehearsal.Network

A network in memory, and the links that a client holds in it.

* `Network.reach` gives a link to an origin: an idle one, or the next attempt.
* `Network.deliver` hands a whole request to the far side, which takes its next reply.
* `Network.keep` puts a link back for the next request to its origin.
-/

namespace EndpointClient.Rehearsal

open Http

/-- What becomes of an attempt to connect. -/
inductive Attempt where
  | accepted
  | refused
  | hanging
  deriving DecidableEq, Repr

/-- What the far side does after it has read a request: it never answers, or it answers after some
time and then closes the link or not. -/
inductive FarReply where
  | silence
  | answer (delayMs : Nat) (content : Bytes) (closes : Bool)

/-- What happens on a link for a reply that begins now. -/
def FarReply.events (now : Nat) : FarReply → LinkEvents
  | .silence => []
  | .answer delay content closes =>
    let time := now + delay
    (if content.isEmpty then [] else [(time, .arrived content)]) ++
      if closes then [(time, .closed)] else []

/-- A link of the client: where it leads, its number once it has carried a whole request, and
whether the far side is of an older version. -/
structure Link where
  origin : Origin
  number : Option Nat
  older : Bool

/-- A whole request as the far side read it, with the number of its link. -/
structure SeenRequest where
  link : Nat
  head : RequestHead
  body : Bytes

/-- A network: the attempts to come and what becomes of all after them, the replies to come, the
links that nobody uses, how many links have carried a request, and what the far side has read, the
latest first. -/
structure Network where
  attempts : List Attempt := []
  otherwise : Attempt := .accepted
  replies : List FarReply := []
  idle : List Link := []
  numbered : Nat := 0
  seen : List SeenRequest := []

namespace Network

/-- A network in which no attempt to connect succeeds. -/
def unreachable : Network := { otherwise := .refused }

def idle? (n : Network) (o : Origin) : Option Link := n.idle.find? (·.origin = o)

/-- A link to an origin, with the event that comes of asking for it. -/
def reach (n : Network) (o : Origin) : Network × Link × Option LinkEvent :=
  match n.idle? o with
  | some l => ({ n with idle := n.idle.filter (·.origin ≠ o) }, l, some .connected)
  | none =>
    let event := match n.attempts.head?.getD n.otherwise with
      | .accepted => some LinkEvent.connected
      | .refused => some .refused
      | .hanging => none
    ({ n with attempts := n.attempts.drop 1 }, ⟨o, none, false⟩, event)

/-- The number of a link that carries a whole request. -/
def number (n : Network) (l : Link) : Network × Nat :=
  match l.number with
  | some k => (n, k)
  | none => ({ n with numbered := n.numbered + 1 }, n.numbered)

/-- Hands a whole request to the far side: the network after that, the link, and what happens on
it. Without another reply the far side closes. -/
def deliver (n : Network) (now : Nat) (l : Link) (head : RequestHead) (body : Bytes) :
    Network × Link × LinkEvents :=
  let (n, k) := n.number l
  let n := { n with seen := ⟨k, head, body⟩ :: n.seen }
  let l := { l with number := some k }
  match n.replies with
  | [] => (n, l, [(now, .closed)])
  | r :: rest => ({ n with replies := rest }, l, r.events now)

/-- Puts a link back after a response, if it may carry another request. A body that nobody reads is
still read to its end if it is not longer than one part. -/
def keep (n : Network) (l : Link) (method : Method) (a : LinkAnswer) (isRead : Bool) : Network :=
  if a.keepsLink method && (isRead || a.body.parts.length ≤ 1) then
    { n with idle := { l with older := !a.head.newer } :: n.idle }
  else n

end Network

end EndpointClient.Rehearsal
