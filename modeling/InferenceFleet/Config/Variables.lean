import InferenceFleet.Config.Layer
import InferenceFleet.Text.Digits

/-!
# Variables that configure a fleet

The layer that the environment contributes. A variable whose value cannot be read says nothing.
-/

namespace InferenceFleet.Environment

/-- The time that a variable gives in whole seconds. -/
def seconds? (e : Environment) (name : String) : Option Duration :=
  ((e.get? name).bind (Text.readNat? Text.maxWord64)).map .ofSeconds

/-- The port that a variable gives. -/
def port? (e : Environment) (name : String) : Option UInt16 :=
  ((e.get? name).bind (Text.readNat? Text.maxWord16)).map .ofNat

/-- The truth value that a variable gives: false for a zero and for the word. -/
def flag? (e : Environment) (name : String) : Option Bool :=
  (e.get? name).map fun value => value ≠ "0" && !Text.sameUpToAsciiCase value "false"

/-- The mode that a variable gives. -/
def mode? (e : Environment) (name : String) : Option RouterMode :=
  (e.get? name).bind fun value => (RouterMode.parse value).toOption

/-- What the environment says about the settings. -/
def layer (e : Environment) : ConfigLayer :=
  { ConfigLayer.empty with
    interval := e.seconds? "FLEET_MONITOR_INTERVAL"
    probeTimeout := e.seconds? "FLEET_PROBE_TIMEOUT"
    startupWait := e.seconds? "FLEET_STARTUP_WAIT"
    peersFile := e.get? "FLEET_PEERS_FILE"
    fallbackUrl := e.get? "FLEET_FALLBACK_URL"
    fallbackModel := e.get? "FLEET_FALLBACK_MODEL"
    mode := e.mode? "FLEET_ROUTER_MODE"
    localEnabled := e.flag? "FLEET_LOCAL_PROBE"
    localHost := e.get? "OLLAMA_HOST"
    localPort := e.port? "OLLAMA_PORT" }

end InferenceFleet.Environment
