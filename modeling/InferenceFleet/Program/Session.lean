import InferenceFleet.Config.Settings
import InferenceFleet.Program.Error
import InferenceFleet.Program.Host
import InferenceFleet.Registry.PeerFile
import InferenceFleet.Routing.Router
import InferenceFleet.Routing.Status
import InferenceFleet.Timeline.CycleRun

/-!
# Sessions

What a command works with: the fleet as the peer file has it, on the network of the host, with a
router over it. A session is opened by loading the peer file and closed, by the commands that
change the fleet, by saving it; what is saved is what the registry then holds.
-/

namespace InferenceFleet.Program

/-- What a command works with. -/
structure Session where
  config : FleetConfig
  world : World
  router : Router
  /-- The time elapsed when the session was opened. -/
  openedAt : Duration

namespace Session

/-- The peers of the peer file, if there is one. -/
def loadPeers (fs : FileSystem) (c : FleetConfig) : Except CommandError Registry :=
  match c.peersFile with
  | none => .ok .empty
  | some path =>
      match Registry.empty.load fs path with
      | .ok (registry, _) => .ok registry
      | .error e => .error (.loading path e)

/-- A session over a registry. -/
def ofRegistry (h : Host) (c : FleetConfig) (registry : Registry) : Session :=
  let fleet : Fleet :=
    { registry := registry, files := h.files, faults := h.faults,
      errors := .empty c.monitor.errorSpan, events := some [], completed := 0, clock := h.clock }
  { config := c
    world :=
      { now := 0, network := h.network c.endpoint, probed := [], lock := .free, fleet := fleet }
    router := .new (.ofSettings c.policy) c.failurePolicy
    openedAt := h.clock.now.elapsed }

/-- Opens a session. -/
def start (h : Host) (c : FleetConfig) : Except CommandError Session :=
  (loadPeers h.files c).map (ofRegistry h c)

/-- The registry of a session. -/
def registry (s : Session) : Registry := s.world.fleet.registry

/-- The files as the session left them. -/
def files (s : Session) : FileSystem := s.world.fleet.files

/-- The session with another shared state. -/
def withFleet (s : Session) (f : Fleet) : Session := { s with world := { s.world with fleet := f } }

/-- Saves the fleet to the peer file, if there is one. -/
def save (s : Session) : Except CommandError Unit × Session :=
  match s.config.peersFile with
  | none => (.ok (), s)
  | some path =>
      let f := s.world.fleet
      let (result, files) := f.registry.save f.faults f.files path
      let s := s.withFleet { f with files := files }
      match result with
      | .ok _ => (.ok (), s)
      | .error e => (.error (.saving path e), s)

/-- Runs a cycle and waits for it as long as the settings say. -/
def cycle (s : Session) : Session × Option CycleReport :=
  let (world, report) := ForcedCycle.complete s.config.monitorConfig s.world
  ({ s with world := world }, report)

/-- What the router tells of itself and the fleet. -/
def status (s : Session) : FleetStatus :=
  let f := s.world.fleet
  { mode := s.router.failure.mode
    peers := f.registry.snapshot
    statistics := s.router.statistics
    uptime := f.clock.now.elapsed - s.openedAt
    cyclesCompleted := f.completed
    recentErrors := f.recentErrors.1 }

end Session

end InferenceFleet.Program
