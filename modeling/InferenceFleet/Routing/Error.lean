import InferenceFleet.FailureClass

/-!
# Routing errors

How routing a task can fail: no node serves any of the models that were tried, or there was no
model to try.
-/

namespace InferenceFleet

/-- Why a task was not routed. -/
inductive RoutingError
  /-- No available node serves any of the preferred models of the category. -/
  | noAvailableEndpoint (category : String) (tried : List String)
  /-- Selection could not be made at all. -/
  | system (reason : String)
  deriving DecidableEq

namespace RoutingError

/-- An error in words. -/
def message : RoutingError → String
  | .noAvailableEndpoint category tried =>
      "no available endpoint for category '" ++ category ++ "' (tried: "
        ++ String.intercalate ", " tried ++ ")"
  | .system reason => "routing system error: " ++ reason

/-- The class of an error. -/
def failureClass : RoutingError → FailureClass
  | .noAvailableEndpoint .. => .noAvailableEndpoint
  | .system _ => .system

/-- Whether every preference was tried in vain. -/
def isExhausted : RoutingError → Bool
  | .noAvailableEndpoint .. => true
  | .system _ => false

end RoutingError

end InferenceFleet
