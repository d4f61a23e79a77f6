import InferenceFleet.Config.Settings

/-!
# Layers of a configuration

A layer says something about some of the settings and nothing about the others. Laid over a
configuration, it changes the settings it says something about and no others; a setting therefore
has the value of the last layer that says something about it.
-/

namespace InferenceFleet

/-- What a layer says about the settings. -/
structure ConfigLayer where
  interval : Option Duration
  probeTimeout : Option Duration
  startupWait : Option Duration
  errorSpan : Option Duration
  maxConcurrent : Option Nat
  localEnabled : Option Bool
  localHost : Option String
  localPort : Option UInt16
  fallbackUrl : Option String
  fallbackModel : Option String
  peersFile : Option String
  mode : Option RouterMode
  deriving DecidableEq

namespace ConfigLayer

/-- A layer that says nothing. -/
def empty : ConfigLayer :=
  ⟨none, none, none, none, none, none, none, none, none, none, none, none⟩

/-- Whether the layer says nothing. -/
def isEmpty (l : ConfigLayer) : Bool := l = empty

/-- The configuration with the layer over it. -/
def applyTo (l : ConfigLayer) (c : FleetConfig) : FleetConfig :=
  { c with
    monitor :=
      { c.monitor with
        interval := l.interval.getD c.monitor.interval
        probeTimeout := l.probeTimeout.getD c.monitor.probeTimeout
        startupWait := l.startupWait.getD c.monitor.startupWait
        errorSpan := l.errorSpan.getD c.monitor.errorSpan
        maxConcurrent := l.maxConcurrent.getD c.monitor.maxConcurrent }
    localEnabled := l.localEnabled.getD c.localEnabled
    endpoint :=
      { c.endpoint with
        host := l.localHost.getD c.endpoint.host
        port := l.localPort.getD c.endpoint.port }
    fallback := ⟨l.fallbackUrl.getD c.fallback.url, l.fallbackModel.getD c.fallback.model⟩
    mode := l.mode.getD c.mode
    peersFile := l.peersFile.or c.peersFile }

/-- The configuration with the layer over it, naming the layer as its source if it says
anything. -/
def applyFrom (source : ConfigSource) (l : ConfigLayer) (c : FleetConfig) : FleetConfig :=
  let c' := l.applyTo c
  if l.isEmpty then c' else { c' with source := source }

/-- A layer that says nothing changes nothing. -/
@[simp] theorem empty_applyTo (c : FleetConfig) : empty.applyTo c = c := rfl

/-- The source stays the same under a layer that says nothing. -/
@[simp] theorem applyFrom_empty (source : ConfigSource) (c : FleetConfig) :
    applyFrom source empty c = c := rfl

end ConfigLayer

end InferenceFleet
