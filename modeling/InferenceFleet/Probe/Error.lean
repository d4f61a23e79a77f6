import InferenceFleet.FailureClass
import InferenceFleet.Time.Duration

/-!
# Probe errors

How a probe of one address can fail. Each error names the address that was probed.
-/

namespace InferenceFleet

/-- What went wrong in a probe. -/
inductive ProbeFault
  /-- The node was not reached, or answered with a failure status. -/
  | network (message : String)
  /-- The probe did not finish within its deadline. -/
  | timeout (deadline : Duration)
  /-- The answer is not an acceptable capability. -/
  | validation (message : String)
  /-- The probe could not be made. -/
  | system (message : String)
  deriving DecidableEq

/-- A failed probe: the text of the address, and the fault. -/
structure ProbeError where
  address : String
  fault : ProbeFault
  deriving DecidableEq

namespace ProbeError

/-- The class of a failed probe. -/
def failureClass (e : ProbeError) : FailureClass :=
  match e.fault with
  | .network _ => .network
  | .timeout _ => .timeout
  | .validation _ => .validation
  | .system _ => .system

/-- A failed probe in words. -/
def message (e : ProbeError) : String :=
  match e.fault with
  | .network message => "network error probing " ++ e.address ++ ": " ++ message
  | .timeout deadline => "probe of " ++ e.address ++ " timed out after " ++ Duration.text deadline
  | .validation message => "invalid capability payload from " ++ e.address ++ ": " ++ message
  | .system message => "unexpected error probing " ++ e.address ++ ": " ++ message

end ProbeError

end InferenceFleet
