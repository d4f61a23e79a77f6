import InferenceFleet.Monitor.Event
import InferenceFleet.Routing.Attempts
import InferenceFleet.Routing.Router
import InferenceFleet.Routing.Status
import InferenceFleet.Scenario.Script

/-!
# Steps of a scenario

What can be done to a fleet in a scenario, and what comes of it. Some steps take time; two steps
may overlap. After a step that may have changed the registry, its peers are shown.
-/

namespace InferenceFleet

/-- Something that is done to a fleet. -/
inductive Step
  | script (address : String) (script : Option Script)
  | setThisNode (plan : Plan Capability)
  /-- Lists the addresses probed since the last time. -/
  | probed
  | addPeer (address : Address) (name : Option String)
  /-- Adds several peers at once. -/
  | addTogether (adds : List (Address × Option String))
  /-- Enters a peer without probing it. -/
  | enroll (peer : Peer)
  | registerLocal (address : Address) (c : Capability)
  | update (id : String) (c : Capability)
  | markUnavailable (id : String)
  | remove (id : String)
  | get (id : String)
  | containsHost (host : String)
  | idAtHost (host : String)
  | size
  | snapshot
  | describe
  /-- Loads a file, which may be written first. -/
  | load (name : String) (content : Option ByteArray)
  | save (name : String)
  | fileText (name : String)
  | makeDirectory (name : String)
  | route (request : Request)
  | status
  | statistics
  /-- Runs a first cycle if nothing is known yet. -/
  | start
  | newAttempts (base : Request) (limit : Nat)
  | nextAttempt
  | routeAttempt
  /-- Counts a route, or the last one there was, as failed. -/
  | failAttempt (route : Option Route)
  | attempts (ids : List String)
  | cycle
  | forceCycle
  | cycleTwice
  | cycles
  | errors
  | events
  | spawn
  | advance (time : Duration)
  | shutdown
  | dropHandle
  /-- Does a second step some time into a first one. -/
  | during (first : Step) (after : Duration) (second : Step)
  | sleep (time : Duration)

/-- A summary of the parts of a fleet; of a monitor, the numbers of its peers and seeds, and its
interval. -/
structure FleetSummary where
  registry : String
  policy : String
  mode : RouterMode
  monitor : Option (Nat × Nat × String)

/-- What came of a step. -/
inductive Reply
  | done
  | addresses (list : List Address)
  | added (result : Except RegistryError String)
  | addedTogether (results : List (Except RegistryError String))
  | changed (result : Except RegistryError Unit)
  | removed (result : Except RegistryError Peer)
  | peer (peer : Option Peer)
  | flag (value : Bool)
  | name (value : Option String)
  | size (value : Nat)
  | snapshot (peers : List Peer)
  | summary (value : FleetSummary)
  | loaded (result : Except RegistryError LoadReport)
  /-- The number of peers saved, and the text of the file. -/
  | saved (result : Except RegistryError (Nat × Option String))
  | content (text : Option String)
  | routed (result : Except RoutingError Route)
  /-- The route of an attempt, unless there are none left. -/
  | attempted (result : Option (Except RoutingError Route))
  | status (value : FleetStatus)
  | statistics (value : Statistics)
  | report (value : Option CycleReport)
  | reports (first second : CycleReport)
  | request (value : Option Request)
  /-- The number of attempts, the failed peers, and for each peer asked about whether it failed. -/
  | attempts (value : Option (Nat × List String × List Bool))
  | count (value : Option Nat)
  | failures (list : List ProbeFailure)
  | events (list : List ProbeEvent)
  | stopped (finishedBefore : Bool) (cycles : Nat)
  | notRunning
  | noMonitor
  | both (first second : Reply × Option (List Peer))

/-- What came of a step, and the peers after it if they are shown. -/
abbrev Observation := Reply × Option (List Peer)

namespace Step

/-- Whether the peers are shown after a step. -/
def showsPeers : Step → Bool
  | .addPeer .. | .addTogether _ | .enroll _ | .registerLocal .. | .update .. => true
  | .markUnavailable _ | .remove _ | .load .. | .makeDirectory _ | .start => true
  | .cycle | .forceCycle | .cycleTwice | .spawn | .advance _ | .shutdown | .dropHandle => true
  | .during .. | .sleep _ => true
  | _ => false

end Step

end InferenceFleet
