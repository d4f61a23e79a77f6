import InferenceFleet.Config.Environment
import InferenceFleet.Config.Source
import InferenceFleet.Monitor.Config
import InferenceFleet.Probe.LocalEndpoint
import InferenceFleet.Routing.Failure
import InferenceFleet.Routing.Policy

/-!
# Configurations

A complete configuration: a value for every setting, and where the strongest of them came from.
What the monitor and the router are given is derived from it.
-/

namespace InferenceFleet

/-- A complete configuration. -/
structure FleetConfig where
  /-- The monitor's times and bounds; its addresses and its file are derived. -/
  monitor : MonitorConfig
  /-- Whether this node is probed and used. -/
  localEnabled : Bool
  endpoint : LocalEndpoint
  fallback : Fallback
  mode : RouterMode
  peersFile : Option String
  seeds : List Address
  policy : PolicySettings
  /-- The configuration file that was read. -/
  configFile : Option String
  source : ConfigSource

namespace FleetConfig

/-- The configuration unless something else is said. -/
def builtin (e : Environment) : FleetConfig :=
  { monitor := .builtin, localEnabled := true, endpoint := .builtin, fallback := .builtin,
    mode := .resilient, peersFile := e.defaultPeersPath?, seeds := [], policy := .none,
    configFile := none, source := .builtin }

/-- What the monitor is given. -/
def monitorConfig (c : FleetConfig) : MonitorConfig :=
  { c.monitor with
    localAddress := if c.localEnabled then some c.endpoint.address else none
    seeds := c.seeds
    peersFile := c.peersFile }

/-- What the router does with errors. -/
def failurePolicy (c : FleetConfig) : FailurePolicy := .ofMode c.mode c.fallback

end FleetConfig

end InferenceFleet
