import InferenceFleet.Probe.Error
import InferenceFleet.Registry.Error
import InferenceFleet.Routing.Error

/-!
# How a command fails

A command that fails says what it could not do and, where that is not said already, why.
-/

namespace InferenceFleet.Program

/-- Why a command failed. -/
inductive CommandError
  /-- The configuration could not be loaded. -/
  | unloadable (cause : ConfigError)
  /-- The configuration is not valid as a whole. -/
  | invalid (cause : ConfigError)
  /-- The peer file could not be loaded. -/
  | loading (path : String) (cause : RegistryError)
  /-- The peer file could not be saved. -/
  | saving (path : String) (cause : RegistryError)
  /-- The registry refused what was asked for. -/
  | refused (cause : RegistryError)
  /-- The task has no route. -/
  | unroutable (cause : RoutingError)
  /-- The address did not answer as it should. -/
  | probing (address : Address) (cause : ProbeError)

namespace CommandError

/-- What could not be done. -/
def message : CommandError → String
  | .unloadable _ => "Failed to load configuration"
  | .invalid _ => "Invalid configuration"
  | .loading path _ => "Failed to load peer file " ++ path
  | .saving path _ => "Failed to save peer file " ++ path
  | .refused cause => cause.message
  | .unroutable cause => cause.message
  | .probing address _ => "Probe of " ++ address.text ++ " failed"

/-- Why it could not be done, unless the message says so. -/
def cause? : CommandError → Option String
  | .unloadable cause => some cause.message
  | .invalid cause => some cause.message
  | .loading _ cause => some cause.message
  | .saving _ cause => some cause.message
  | .refused _ => none
  | .unroutable _ => none
  | .probing _ cause => some cause.message

/-- The text of an error. -/
def text (e : CommandError) : String :=
  match e.cause? with
  | some cause => "Error: " ++ e.message ++ "\n\nCaused by:\n    " ++ cause
  | none => "Error: " ++ e.message

end CommandError

end InferenceFleet.Program
