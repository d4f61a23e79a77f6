/-!
# Configuration errors

How reading and resolving a configuration can fail, and how a peer file can be unreadable as
such. The cause of a syntax error is not kept.
-/

namespace InferenceFleet

/-- What is wrong with a configuration or a peer file. -/
inductive ConfigError
  /-- The configuration file could not be read. -/
  | unreadable (path cause : String)
  /-- The configuration file does not have the form of one. -/
  | malformed
  /-- A setting has a value that it cannot have. -/
  | invalid (reason : String)
  /-- The peer file is not a list of records. -/
  | peerFile (path : String) (cause : Option String)
  deriving DecidableEq

namespace ConfigError

/-- The cause that is given for a peer file that is no list. -/
def notAList : String := "expected a JSON array of peer records"

/-- An error in words; what comes after the colon is left out if its cause is not kept. -/
def message : ConfigError → String
  | .unreadable path cause => "Cannot read config file " ++ path ++ ": " ++ cause
  | .malformed => "Malformed TOML config"
  | .invalid reason => "Invalid configuration: " ++ reason
  | .peerFile path none => "Invalid peer file " ++ path
  | .peerFile path (some cause) => "Invalid peer file " ++ path ++ ": " ++ cause

end ConfigError

end InferenceFleet
