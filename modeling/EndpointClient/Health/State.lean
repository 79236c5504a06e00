import EndpointClient.Http.Status

/-!
# EndpointClient.Health.State

Healthy or not: what a probe makes of an answer, and the flag that keeps the result of the last one.
-/

namespace EndpointClient

inductive HealthState where
  | healthy
  | unhealthy
  deriving DecidableEq, Repr

namespace HealthState

/-- A status from 200 to 499 is a healthy answer. -/
def ofStatus (s : Http.StatusCode) : HealthState :=
  if 200 ≤ s.code ∧ s.code ≤ 499 then .healthy else .unhealthy

def ofBool (b : Bool) : HealthState := if b then .healthy else .unhealthy

def isHealthy : HealthState → Bool
  | .healthy => true
  | .unhealthy => false

def text : HealthState → String
  | .healthy => "healthy"
  | .unhealthy => "unhealthy"

def debugText : HealthState → String
  | .healthy => "Healthy"
  | .unhealthy => "Unhealthy"

end HealthState

/-- The state kept of the last probe. Before the first one it is unhealthy. -/
structure HealthFlag where
  state : HealthState := .unhealthy

namespace HealthFlag

def store (_ : HealthFlag) (s : HealthState) : HealthFlag := ⟨s⟩

/-- The states kept, at first and after each of a list of stores. -/
def history (f : HealthFlag) (stores : List HealthState) : List HealthState :=
  (stores.foldl (fun (acc : List HealthState × HealthFlag) s =>
    let f' := acc.2.store s
    (f'.state :: acc.1, f')) ([f.state], f)).1.reverse

end HealthFlag

end EndpointClient
