import InferenceFleet.Monitor.Config
import InferenceFleet.Monitor.ErrorWindow
import InferenceFleet.Monitor.Event
import InferenceFleet.Registry.PeerFile
import InferenceFleet.Time.Clock

/-!
# What cycles work on

The state that the cycles of a monitor share with all other users of a fleet: the registry, the
files, the remembered failures, the events that nobody took yet, the number of finished cycles,
and the clock that all of them read.
-/

namespace InferenceFleet

/-- The shared state of a fleet. -/
structure Fleet where
  registry : Registry
  files : FileSystem
  /-- What goes wrong when the registry is saved. -/
  faults : FileSystem.Faults
  errors : ErrorWindow
  /-- The events not taken yet, oldest first; none are kept if nobody listens. -/
  events : Option (List ProbeEvent)
  /-- The number of finished cycles. -/
  completed : UInt64
  clock : Clock

namespace Fleet

/-- Tells an event to whoever listens. -/
def emit (f : Fleet) (e : ProbeEvent) : Fleet :=
  { f with events := f.events.map (· ++ [e]) }

/-- Remembers a failed probe. -/
def recordFailure (f : Fleet) (peerId : String) (e : ProbeError) : Fleet :=
  let now := f.clock.now
  { f with
    errors := f.errors.push now.elapsed (.of peerId e now.wall)
    clock := f.clock.tick }

/-- The failures in the error window, and the state after looking. -/
def recentErrors (f : Fleet) : List ProbeFailure × Fleet :=
  let pruned := f.errors.prune f.clock.now.elapsed
  (pruned.failures, { f with errors := pruned, clock := f.clock.tick })

/-- Replaces what is known of a peer after a successful probe. -/
def update (f : Fleet) (id : String) (c : Capability) : Except RegistryError Fleet :=
  match f.registry.update id c f.clock.now.wall with
  | .error e => .error e
  | .ok registry => .ok { f with registry := registry, clock := f.clock.tick }

/-- Marks a peer as unavailable, if it is there. -/
def markUnavailable (f : Fleet) (id : String) : Fleet :=
  match f.registry.markUnavailable id with
  | .error _ => f
  | .ok registry => { f with registry := registry }

@[simp]
theorem emit_registry (f : Fleet) (e : ProbeEvent) : (f.emit e).registry = f.registry := rfl

@[simp]
theorem recordFailure_registry (f : Fleet) (peerId : String) (e : ProbeError) :
    (f.recordFailure peerId e).registry = f.registry := rfl

end Fleet

end InferenceFleet
