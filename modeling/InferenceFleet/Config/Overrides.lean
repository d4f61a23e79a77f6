import InferenceFleet.Config.Layer

/-!
# Overrides of a configuration

What a command line says about the settings. Seeds are added to those of the configuration, each
one that is not there yet.
-/

namespace InferenceFleet

/-- What a command line says about the settings. -/
structure ConfigOverrides where
  peersFile : Option String
  intervalSecs : Option Nat
  probeTimeoutSecs : Option Nat
  mode : Option RouterMode
  localEnabled : Option Bool
  seeds : List Address

namespace ConfigOverrides

/-- Nothing said. -/
def none : ConfigOverrides := ⟨.none, .none, .none, .none, .none, []⟩

/-- What is said about the settings other than the seeds. -/
def layer (o : ConfigOverrides) : ConfigLayer :=
  { ConfigLayer.empty with
    peersFile := o.peersFile
    interval := o.intervalSecs.map .ofSeconds
    probeTimeout := o.probeTimeoutSecs.map .ofSeconds
    mode := o.mode
    localEnabled := o.localEnabled }

/-- Whether nothing is said. -/
def isEmpty (o : ConfigOverrides) : Bool := o.layer.isEmpty && o.seeds.isEmpty

/-- The seeds with one more, unless it is there already. -/
def addSeed (seeds : List Address) (seed : Address) : List Address :=
  if seeds.contains seed then seeds else seeds ++ [seed]

/-- The configuration with the overrides over it. -/
def applyTo (o : ConfigOverrides) (c : FleetConfig) : FleetConfig :=
  { o.layer.applyTo c with
    seeds := o.seeds.foldl addSeed c.seeds
    source := if o.isEmpty then c.source else .commandLine }

end ConfigOverrides

end InferenceFleet
