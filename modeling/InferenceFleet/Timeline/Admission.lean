import InferenceFleet.Timeline.World

/-!
# Adding a peer

A peer is added in two steps with a probe in between: the first checks that it could be admitted
now, the second admits it with what the probe brought, after the same checks on the registry as it
is then. A failed probe does not keep a peer out; it is admitted as unavailable.
-/

namespace InferenceFleet

/-- A peer that is being probed for admission. -/
structure Admission where
  candidate : Peer
  /-- The instant at which the probe ends. -/
  due : Duration
  outcome : Outcome

namespace Admission

/-- Checks a peer and starts its probe. -/
def start (deadline : Duration) (w : World) (address : Address) (name : Option String) :
    Except RegistryError (World × Admission) :=
  match w.fleet.registry.candidate address name with
  | .error e => .error e
  | .ok candidate =>
      let flight := w.launch deadline ⟨candidate.id, candidate.address⟩
      .ok ({ w with probed := w.probed ++ [candidate.address] },
        ⟨candidate, flight.due, flight.outcome⟩)

/-- Admits the peer with what its probe brought. -/
def finish (w : World) (a : Admission) : World × Except RegistryError String :=
  match w.fleet.registry.enrollProbed a.candidate a.outcome.toOption with
  | .error e => (w, .error e)
  | .ok registry => ({ w with fleet := { w.fleet with registry := registry } }, .ok a.candidate.id)

/-- Admits the peer if its probe has ended. -/
def poll (w : World) (a : Admission) : World × Option (Except RegistryError String) :=
  if a.due ≤ w.now then
    let (w, result) := a.finish w
    (w, some result)
  else (w, none)

/-- Adds a peer while nothing else happens. -/
def complete (deadline : Duration) (w : World) (address : Address) (name : Option String) :
    World × Except RegistryError String :=
  match start deadline w address name with
  | .error e => (w, .error e)
  | .ok (w, a) => a.finish (w.advanceTo a.due)

end Admission

end InferenceFleet
