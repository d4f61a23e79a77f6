import InferenceFleet.Scenario.Step
import InferenceFleet.Timeline.Admission
import InferenceFleet.Timeline.Loop

/-!
# Scenes

The state of a scenario: a fleet in time with its router, and possibly a monitor whose loop may be
running. Steps that do not wait are functions on scenes.
-/

namespace InferenceFleet

/-- The state of a scenario. -/
structure Scene where
  world : World
  script : ScriptedNetwork
  /-- The deadline of admission probes. -/
  admissionDeadline : Duration
  monitor : Option MonitorConfig
  router : Router
  attempts : Option Attempts
  /-- The last route there was. -/
  lastRoute : Option Route
  /-- The loops started so far. -/
  loops : List Loop
  /-- The place of the loop that can be shut down. -/
  handle : Option Nat
  /-- How many of the probed addresses were listed. -/
  listed : Nat
  /-- The directory of the files. -/
  directory : String

namespace Scene

/-- The registry. -/
def registry (s : Scene) : Registry := s.world.fleet.registry

/-- The scene with another shared state. -/
def withFleet (s : Scene) (f : Fleet) : Scene := { s with world := { s.world with fleet := f } }

/-- The scene with another registry. -/
def withRegistry (s : Scene) (r : Registry) : Scene :=
  s.withFleet { s.world.fleet with registry := r }

/-- The scene with another network. -/
def withScript (s : Scene) (n : ScriptedNetwork) : Scene :=
  { s with script := n, world := { s.world with network := n.network } }

/-- The path of a file. -/
def path (s : Scene) (name : String) : String := s.directory ++ "/" ++ name

/-- The text of a file. -/
def fileText? (s : Scene) (name : String) : Option String :=
  (s.world.fleet.files.readText (.ofText (s.path name))).toOption

/-- What came of a step, and the peers if they are shown after it. -/
def observe (s : Scene) (step : Step) (reply : Reply) : Observation :=
  (reply, if step.showsPeers then some s.registry.snapshot else none)

/-- A change of the registry. -/
def change (s : Scene) (result : Except RegistryError Registry) : Scene × Reply :=
  match result with
  | .error e => (s, .changed (.error e))
  | .ok r => (s.withRegistry r, .changed (.ok ()))

/-- Enters a peer without probing it. -/
def enroll (s : Scene) (p : Peer) : Scene × Reply :=
  match s.registry.enroll p with
  | .error e => (s, .added (.error e))
  | .ok r => (s.withRegistry r, .added (.ok p.id))

/-- Replaces what is known of a peer. -/
def update (s : Scene) (id : String) (c : Capability) : Scene × Reply :=
  match s.world.fleet.update id c with
  | .error e => (s, .changed (.error e))
  | .ok f => (s.withFleet f, .changed (.ok ()))

/-- Removes a peer. -/
def remove (s : Scene) (id : String) : Scene × Reply :=
  match s.registry.remove id with
  | .error e => (s, .removed (.error e))
  | .ok (p, r) => (s.withRegistry r, .removed (.ok p))

/-- Puts a file where it belongs, with all directories that lead to it. -/
def writeFile (s : Scene) (name : String) (content : ByteArray) : Scene :=
  let path := Path.ofText (s.path name)
  let (_, files) := s.world.fleet.files.makeParents path
  s.withFleet { s.world.fleet with files := (files.write path content).toOption.getD files }

/-- Loads a file, which may be written first. -/
def load (s : Scene) (name : String) (content : Option ByteArray) : Scene × Reply :=
  let s := match content with
    | some content => s.writeFile name content
    | none => s
  match s.registry.load s.world.fleet.files (s.path name) with
  | .error e => (s, .loaded (.error e))
  | .ok (r, report) => (s.withRegistry r, .loaded (.ok report))

/-- Saves the registry to a file. -/
def save (s : Scene) (name : String) : Scene × Reply :=
  let (result, files) := s.registry.save s.world.fleet.faults s.world.fleet.files (s.path name)
  let s := s.withFleet { s.world.fleet with files := files }
  (s, .saved (result.map fun n => (n, s.fileText? name)))

/-- Makes a directory. -/
def makeDirectory (s : Scene) (name : String) : Scene × Reply :=
  let (_, files) := s.world.fleet.files.makeDirectories (.ofText (s.path name))
  (s.withFleet { s.world.fleet with files := files }, .done)

/-- Routes a task, and remembers the route. -/
def route (s : Scene) (r : Request) : Scene × Except RoutingError Route :=
  let (result, router) := s.router.route s.registry.snapshot r
  let s := { s with router := router }
  match result with
  | .ok route => ({ s with lastRoute := some route }, result)
  | .error _ => (s, result)

/-- The failures that the monitor remembers. -/
def recentErrors (s : Scene) : List ProbeFailure × Scene :=
  let (failures, f) := s.world.fleet.recentErrors
  (failures, s.withFleet f)

/-- What the router tells of itself and its fleet. -/
def status (s : Scene) : Scene × FleetStatus :=
  let peers := s.registry.snapshot
  let base : FleetStatus :=
    { mode := s.router.failure.mode, peers := peers, statistics := s.router.statistics,
      uptime := s.world.fleet.clock.now.elapsed, cyclesCompleted := 0, recentErrors := [] }
  match s.monitor with
  | none => (s, base)
  | some _ =>
      let (failures, s) := s.recentErrors
      (s, { base with cyclesCompleted := s.world.fleet.completed, recentErrors := failures })

/-- A summary of the parts of the fleet. -/
def describe (s : Scene) : FleetSummary :=
  { registry := s.registry.summary s.admissionDeadline
    policy := s.router.policy.summary
    mode := s.router.failure.mode
    monitor := s.monitor.map fun c =>
      (s.registry.size, c.seeds.length, Duration.text c.interval) }

/-- The request of the next attempt. -/
def nextAttempt (s : Scene) : Scene × Option Request :=
  match s.attempts with
  | none => (s, none)
  | some a =>
      let (request, a) := a.next
      ({ s with attempts := some a }, request)

/-- Routes the next attempt. -/
def routeAttempt (s : Scene) : Scene × Option (Except RoutingError Route) :=
  match s.nextAttempt with
  | (s, none) => (s, none)
  | (s, some request) =>
      let (s, result) := s.route request
      (s, some result)

/-- Counts a route as failed. -/
def failAttempt (s : Scene) (route : Option Route) : Scene :=
  match s.attempts, route.or s.lastRoute with
  | some a, some route => { s with attempts := some (a.recordFailure route) }
  | _, _ => s

/-- Takes the events that nobody took yet. -/
def takeEvents (s : Scene) : Scene × List ProbeEvent :=
  let events := s.world.fleet.events
  (s.withFleet { s.world.fleet with events := events.map fun _ => [] }, events.getD [])

/-- Tells the loop that can be shut down to stop. -/
def stopLoop (s : Scene) : Scene :=
  match s.handle with
  | none => s
  | some i => { s with loops := s.loops.modify i fun l => { l with stopping := true } }

/-- Starts a loop, in place of the one that could be shut down until now. -/
def spawn (s : Scene) : Scene :=
  let s := s.stopLoop
  { s with loops := s.loops ++ [.new], handle := some s.loops.length }

end Scene

end InferenceFleet
