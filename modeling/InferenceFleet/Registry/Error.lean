import InferenceFleet.Config.Error
import InferenceFleet.FailureClass
import InferenceFleet.Peer.Address

/-!
# Registry errors

How an operation on the registry, or on the file it is kept in, can fail.
-/

namespace InferenceFleet

/-- Why an operation on the registry failed. -/
inductive RegistryError
  /-- The host belongs to a registered peer. -/
  | duplicateHost (host existing : String)
  /-- The identifier belongs to a registered peer. -/
  | duplicateId (id : String)
  /-- The identifier is reserved for this node. -/
  | reservedId (id : String)
  /-- The address or the capability that comes with it is not acceptable. -/
  | invalidAddress (host : String) (port : UInt16) (reason : String)
  /-- No peer has the identifier. -/
  | notFound (id : String)
  /-- The peer file is not readable as such. -/
  | config (error : ConfigError)
  /-- The peer file could not be read or written. -/
  | io (path cause : String)
  deriving DecidableEq

namespace RegistryError

/-- The error of a refused address. -/
def ofAddress (e : AddressError) : RegistryError :=
  .invalidAddress e.host e.port e.fault.reason

/-- An error in words. -/
def message : RegistryError → String
  | .duplicateHost host existing =>
      "address " ++ host ++ " is already registered as peer " ++ existing
  | .duplicateId id => "peer id " ++ id ++ " is already registered"
  | .reservedId id => "peer id " ++ id ++ " is reserved"
  | .invalidAddress host port reason =>
      "invalid peer address " ++ host ++ ":" ++ Text.numeral port.toNat ++ ": " ++ reason
  | .notFound id => "peer " ++ id ++ " not found"
  | .config error => error.message
  | .io path cause => "peer file I/O error at " ++ path ++ ": " ++ cause

/-- The class of an error. -/
def failureClass : RegistryError → FailureClass
  | .config _ => .config
  | .io .. => .system
  | _ => .validation

end RegistryError

end InferenceFleet
