import InferenceFleet.Text.Set

/-!
# Requests and routes

A request asks where a task can run: by its prompt, or by a role or a category that was given
with it, possibly with models to prefer and peers to leave out. A route is the answer: an
endpoint, the peer behind it and the model to use there.
-/

namespace InferenceFleet

/-- A task to be routed. -/
structure Request where
  prompt : String
  category : Option String
  role : Option String
  /-- Models to use instead of the preferences of the category. -/
  preferred : Option (List String)
  /-- Peers that are left out. -/
  excluded : TextSet

/-- Where a task runs, and with which model. -/
structure Route where
  endpointUrl : String
  peerId : String
  modelId : String
  /-- Whether this is the fallback that takes the place of a failed selection. -/
  isFallback : Bool
  deriving DecidableEq

namespace Request

/-- A task that is known by its prompt alone. -/
def ofPrompt (prompt : String) : Request := ⟨prompt, none, none, none, ∅⟩

/-- A task that is known by a role alone. -/
def ofRole (role : String) : Request := ⟨"", none, some role, none, ∅⟩

/-- The request with more peers left out. -/
def excluding (r : Request) (ids : List String) : Request :=
  { r with excluded := r.excluded.insertMany ids }

end Request

end InferenceFleet
