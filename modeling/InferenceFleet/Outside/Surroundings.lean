import InferenceFleet.Config.Variables
import InferenceFleet.Outside.Connection
import InferenceFleet.Outside.Disk
import InferenceFleet.Probe.HostReadings
import InferenceFleet.Program.Entry
import Std.Time

/-!
# The surroundings of the program

The host as a value: its variables, the files that an invocation is about, its hardware and its
clocks. The program itself then works on that value alone.
-/

namespace InferenceFleet.Outside

open Program (Host)
open CommandLine (Command Invocation)

/-- The variables that are looked at. -/
def variableNames : List String :=
  ["HOME", "XDG_CONFIG_HOME", CommandLine.configVariable, CommandLine.logLevelVariable,
    "FLEET_MONITOR_INTERVAL", "FLEET_PROBE_TIMEOUT", "FLEET_STARTUP_WAIT", "FLEET_PEERS_FILE",
    "FLEET_FALLBACK_URL", "FLEET_FALLBACK_MODEL", "FLEET_ROUTER_MODE", "FLEET_LOCAL_PROBE",
    "OLLAMA_HOST", "OLLAMA_PORT"]

/-- The environment. -/
def readEnvironment : IO Environment := do
  let bindings ← variableNames.filterMapM fun name => do
    return (← IO.getEnv name).map fun value => (name, value)
  return ⟨.ofList bindings, none⟩

/-- The clocks as they stand; the time elapsed is counted from the start of the host. -/
def readClock : IO Clock := do
  let nanos := (← Std.Time.Timestamp.now).toNanosecondsSinceUnixEpoch.toInt
  let second : Nat := Duration.ofSeconds 1
  let reading : Reading := ⟨⟨nanos / second, (nanos % second).toNat⟩, ← IO.monoNanosNow⟩
  return ⟨fun _ => reading, 0⟩

/-- The text of a file, if it can be had. -/
def textAt? (path : String) : IO (Option String) := do
  try return String.fromUTF8? (← IO.FS.readBinFile path)
  catch _ => return none

/-- The hardware of this host. Its graphics devices are listed by another program, and none is
started from here; so they count as not listed. -/
def readHardware : IO Exchange.Hardware := do
  let cores := HostReadings.cores ((← textAt? "/proc/cpuinfo").getD "")
  return HostReadings.hardware (.ofNat cores) (← textAt? "/proc/meminfo")
    (← textAt? "/proc/loadavg") none

/-- The files that an invocation is about: its configuration file and its peer file. -/
def readFiles (e : Environment) (i : Invocation) : IO FileSystem := do
  let working := (Path.ofText (← IO.currentDir).toString).steps
  let files : FileSystem := ⟨.empty, working⟩
  let files ← match i.configPath? e with
    | some path => observe files path
    | none => pure files
  match i.settings files e with
  | .ok { peersFile := some path, .. } => observe files path
  | _ => return files

end InferenceFleet.Outside
