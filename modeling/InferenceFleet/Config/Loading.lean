import InferenceFleet.Config.Document
import InferenceFleet.Config.Error
import InferenceFleet.Config.Variables
import InferenceFleet.Files.FileSystem
import InferenceFleet.Registry.Error

/-!
# Loading a configuration

The built-in configuration, then the configuration file if there is one, then the environment. A
file that is there has to be readable, well formed, and free of seeds that are no addresses.
-/

namespace InferenceFleet

namespace ConfigDocument

/-- What a file says about the settings. -/
def layer (d : ConfigDocument) : ConfigLayer :=
  { interval := d.monitor.intervalSecs.map .ofSeconds
    probeTimeout := d.monitor.probeTimeoutSecs.map .ofSeconds
    startupWait := d.monitor.startupWaitSecs.map .ofSeconds
    errorSpan := d.monitor.errorWindowSecs.map .ofSeconds
    maxConcurrent := d.monitor.maxConcurrentProbes
    localEnabled := d.thisNode.enabled
    localHost := d.thisNode.host
    localPort := d.thisNode.port
    fallbackUrl := d.fallback.url
    fallbackModel := d.fallback.model
    peersFile := d.discovery.peersFile
    mode := d.router.mode }

/-- The address of a seed. -/
def seed (text : String) : Except ConfigError Address :=
  (Address.parse text).mapError fun e =>
    .invalid ("discovery.seeds: " ++ (RegistryError.ofAddress e).message)

/-- The seeds of a file, if it lists any. -/
def seeds (d : ConfigDocument) : Except ConfigError (Option (List Address)) :=
  match d.discovery.seeds with
  | none => .ok none
  | some texts => (texts.mapM seed).map some

/-- The configuration with a file over it. -/
def applyTo (path : String) (d : ConfigDocument) (c : FleetConfig) :
    Except ConfigError FleetConfig :=
  match d.seeds with
  | .error e => .error e
  | .ok seeds =>
      .ok
        { d.layer.applyTo c with
          seeds := seeds.getD c.seeds
          policy := d.policy
          configFile := some path
          source := .file }

end ConfigDocument

namespace FleetConfig

/-- The configuration with the file at a path over it, if one is there. -/
def withFile (fs : FileSystem) (path : String) (c : FleetConfig) :
    Except ConfigError FleetConfig :=
  if !fs.holds (.ofText path) then .ok c
  else
    match fs.readText (.ofText path) with
    | .error e => .error (.unreadable path e.message)
    | .ok text =>
        match ConfigDocument.read? text with
        | none => .error .malformed
        | some document => document.applyTo path c

/-- The configuration of an environment, with the file at a path if one is given. -/
def load (fs : FileSystem) (e : Environment) (path : Option String) :
    Except ConfigError FleetConfig :=
  let filed := match path with
    | some path => (builtin e).withFile fs path
    | none => .ok (builtin e)
  filed.map (e.layer.applyFrom .environment)

end FleetConfig

end InferenceFleet
