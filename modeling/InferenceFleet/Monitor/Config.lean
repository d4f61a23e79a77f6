import InferenceFleet.Peer.Address
import InferenceFleet.Time.Duration

/-!
# Settings of the monitor

How often the monitor runs a cycle, how long it waits for answers, how many probes it has in
flight, and what it probes beyond the registered peers.
-/

namespace InferenceFleet

/-- Settings of the monitor. -/
structure MonitorConfig where
  /-- The time from one cycle to the next. -/
  interval : Duration
  /-- The deadline of each probe. -/
  probeTimeout : Duration
  /-- How long a forced cycle is waited for. -/
  startupWait : Duration
  /-- How long failures are remembered. -/
  errorSpan : Duration
  /-- How many probes may be in flight at once; at least one is. -/
  maxConcurrent : Nat
  /-- The address of this node's model server, if it is probed. -/
  localAddress : Option Address
  /-- Addresses to take into the fleet once they answer. -/
  seeds : List Address
  /-- The file that the registry is kept in. -/
  peersFile : Option String
  deriving DecidableEq

namespace MonitorConfig

/-- The settings unless something else is configured. -/
def builtin : MonitorConfig :=
  { interval := .ofSeconds 30, probeTimeout := .ofSeconds 5, startupWait := .ofSeconds 5,
    errorSpan := .ofSeconds 300, maxConcurrent := 16, localAddress := none, seeds := [],
    peersFile := none }

/-- Settings with short times, for trying things out. -/
def brief : MonitorConfig :=
  { builtin with
    interval := .ofMillis 50, probeTimeout := .ofMillis 100, startupWait := .ofMillis 500 }

/-- How many probes are in flight at most. -/
def width (c : MonitorConfig) : Nat := max 1 c.maxConcurrent

end MonitorConfig

end InferenceFleet
