import InferenceFleet.Routing.Request

/-!
# Attempts at one task

A caller that finds a route not working asks again, with the peers that failed left out. The
number of attempts is bounded, and a fallback that failed ends them.
-/

namespace InferenceFleet

/-- The attempts made at one task. -/
structure Attempts where
  base : Request
  /-- The peers that failed, each once, in the order they failed. -/
  failed : List String
  made : Nat
  limit : Nat
  reachedFallback : Bool

namespace Attempts

/-- No attempt made yet. -/
def new (base : Request) (limit : Nat) : Attempts := ⟨base, [], 0, limit, false⟩

/-- The request of the next attempt, unless there is none left. -/
def next (a : Attempts) : Option Request × Attempts :=
  if a.limit ≤ a.made || a.reachedFallback then (none, a)
  else (some (a.base.excluding a.failed), { a with made := a.made + 1 })

/-- A route that did not work. -/
def recordFailure (a : Attempts) (route : Route) : Attempts :=
  if route.isFallback then { a with reachedFallback := true }
  else if a.failed.contains route.peerId then a
  else { a with failed := a.failed ++ [route.peerId] }

/-- The peers that failed, as a set. -/
def excluded (a : Attempts) : TextSet := .ofList a.failed

/-- Whether a peer failed. -/
def hasFailed (a : Attempts) (id : String) : Bool := a.failed.contains id

end Attempts

end InferenceFleet
