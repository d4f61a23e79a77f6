import InferenceFleet.Config.Error
import InferenceFleet.Routing.Error
import InferenceFleet.Routing.Request
import InferenceFleet.Text.Blank
import InferenceFleet.Text.LowerCase

/-!
# What becomes of a failed selection

A strict policy hands the error on; a resilient one answers with a fallback instead, whatever the
error was. Which of the two is meant is the router's mode.
-/

namespace InferenceFleet

/-- How errors of selection are met. -/
inductive RouterMode
  | strict
  | resilient
  deriving DecidableEq

namespace RouterMode

/-- The name of a mode. -/
def name : RouterMode → String
  | .strict => "strict"
  | .resilient => "resilient"

/-- The mode of a name. -/
def ofName? (s : String) : Option RouterMode :=
  if s = "strict" then some .strict else if s = "resilient" then some .resilient else none

/-- The mode of a text: its name in any case, with blanks around it. -/
def parse (s : String) : Except ConfigError RouterMode :=
  let key := Text.lowerCase (Text.trim s)
  match ofName? key with
  | some mode => .ok mode
  | none =>
      .error (.invalid ("unknown router mode '" ++ key ++ "' (expected 'strict' or 'resilient')"))

end RouterMode

/-- An endpoint and a model to use when nothing can be selected. -/
structure Fallback where
  url : String
  model : String
  deriving DecidableEq

namespace Fallback

/-- The peer identifier of a fallback route. -/
def peerId : String := "local-fallback"

/-- The model server of this node. -/
def builtin : Fallback := ⟨"http://127.0.0.1:11434", "llama3.1:8b"⟩

/-- The route to a fallback. -/
def route (f : Fallback) : Route := ⟨f.url, peerId, f.model, true⟩

end Fallback

/-- What becomes of a failed selection. -/
inductive FailurePolicy
  | strict
  | resilient (fallback : Fallback)
  deriving DecidableEq

namespace FailurePolicy

/-- The policy unless something else is configured. -/
def builtin : FailurePolicy := .resilient .builtin

/-- The policy of a mode. -/
def ofMode (mode : RouterMode) (fallback : Fallback) : FailurePolicy :=
  match mode with
  | .strict => .strict
  | .resilient => .resilient fallback

/-- The mode of a policy. -/
def mode : FailurePolicy → RouterMode
  | .strict => .strict
  | .resilient _ => .resilient

/-- Whether errors are replaced by the fallback. -/
def isResilient : FailurePolicy → Bool
  | .strict => false
  | .resilient _ => true

/-- What an error turns into. -/
def recover (p : FailurePolicy) (error : RoutingError) : Except RoutingError Route :=
  match p with
  | .strict => .error error
  | .resilient fallback => .ok fallback.route

end FailurePolicy

end InferenceFleet
