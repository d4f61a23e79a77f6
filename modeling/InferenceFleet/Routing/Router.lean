import InferenceFleet.Routing.Failure
import InferenceFleet.Routing.Selection
import InferenceFleet.Routing.Statistics

/-!
# The router

A router joins a preference policy with a failure policy and counts what it does. Routing selects
from the peers it is given, meets an error as the failure policy says, and returns the router with
its counts.
-/

namespace InferenceFleet

/-- Routes tasks over the peers it is shown. -/
structure Router where
  policy : Policy
  failure : FailurePolicy
  statistics : Statistics

namespace Router

/-- A router that has not routed anything. -/
def new (policy : Policy) (failure : FailurePolicy) : Router := ⟨policy, failure, .zero⟩

/-- The counts after an error of selection. -/
def countError (s : Statistics) : RoutingError → Statistics
  | .noAvailableEndpoint .. => s.recordExhaustion
  | .system _ => s.recordSystemError

/-- Routes one task. -/
def route (router : Router) (peers : List Peer) (r : Request) :
    Except RoutingError Route × Router :=
  match select router.policy r peers with
  | .ok selection =>
      let s := router.statistics.recordSelection selection.route.peerId selection.route.modelId
        selection.tier
      (.ok selection.route, { router with statistics := s })
  | .error error =>
      let s := countError router.statistics error
      match router.failure.recover error with
      | .ok route => (.ok route, { router with statistics := s.recordFallback })
      | .error error => (.error error, { router with statistics := s })

/-- Routes a prompt past some peers; models may be given to use instead of the preferences of its
category. -/
def forPrompt (router : Router) (peers : List Peer) (prompt : String) (excluded : TextSet)
    (preferred : Option (List String)) : Except RoutingError Route × Router :=
  router.route peers
    { (Request.ofPrompt prompt).excluding excluded.toList with preferred := preferred }

/-- Routes a task that is known by its prompt alone. -/
def forTask (router : Router) (peers : List Peer) (prompt : String) :
    Except RoutingError Route × Router :=
  router.route peers (.ofPrompt prompt)

/-- Routes a task that is known by a role alone. -/
def forRole (router : Router) (peers : List Peer) (role : String) :
    Except RoutingError Route × Router :=
  router.route peers (.ofRole role)

end Router

end InferenceFleet
