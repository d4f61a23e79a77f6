import InferenceFleet.Program.Commands
import InferenceFleet.Timeline.Loop

/-!
# The daemon

The command that ends only when it is told to: the monitor's loop goes round over an open session.
If no peer is known at first, a cycle is run before the loop starts. Being told to read the peer
file again adds the peers that are new in it; a file that cannot be read changes nothing. Being
told to end stops the loop, which gives up the cycle it may be in, and saves the fleet.
-/

namespace InferenceFleet.Program

/-- A session with the monitor's loop over it. -/
structure Daemon where
  session : Session
  loop : Loop

namespace Daemon

/-- The daemon with the session at another state of the world. -/
def withWorld (d : Daemon) (w : World) : Daemon :=
  { d with session := { d.session with world := w } }

/-- The loop, as far as it gets at the present instant. -/
def poll (d : Daemon) : Daemon :=
  let (world, loop) := d.loop.poll d.session.config.monitorConfig d.session.world
  { d.withWorld world with loop := loop }

/-- Starts the loop, after a first cycle if no peer is known. -/
def start (s : Session) : Daemon :=
  let s := if s.registry.isEmpty then s.cycle.1 else s
  poll ⟨s, .new⟩

/-- The next instant at which the loop can go on. -/
def nextWake? (d : Daemon) : Option Duration :=
  Duration.least? (d.loop.wakes d.session.world)

/-- The daemon at the next instant at which the loop can go on. -/
def wake (d : Daemon) : Daemon :=
  match d.nextWake? with
  | some t => poll (d.withWorld (d.session.world.advanceTo t))
  | none => d

/-- Goes on until there were so many cycles, at `fuel` instants at most. -/
def awaitFrom (count : Nat) : Nat → Daemon → Daemon
  | 0, d => d
  | fuel + 1, d =>
      if count ≤ d.session.world.fleet.completed.toNat then d else awaitFrom count fuel d.wake

/-- How many instants the cycles that are waited for are given. -/
def instants : Nat := 1000000000

/-- Goes on until there were so many cycles. -/
def await (d : Daemon) (count : Nat) : Daemon := d.awaitFrom count instants

/-- Reads the peer file again. -/
def reload (d : Daemon) : Daemon :=
  match d.session.config.peersFile with
  | none => d
  | some path =>
      let f := d.session.world.fleet
      match f.registry.load f.files path with
      | .ok (registry, _) =>
          { d with session := d.session.withFleet { f with registry := registry } }
      | .error _ => d

/-- Meets a file that somebody else has written. -/
def meet (d : Daemon) (path : String) (content : ByteArray) : Daemon :=
  let f := d.session.world.fleet
  match f.files.write (.ofText path) content with
  | .ok files => { d with session := d.session.withFleet { f with files := files } }
  | .error _ => d

/-- Stops the loop and saves the fleet. -/
def finish (d : Daemon) : Completion :=
  let d := { d with loop := { d.loop with stopping := true } }.poll
  match d.session.save with
  | (.ok (), s) => ⟨.ok none, s.files⟩
  | (.error e, s) => .failed e s.files

/-- Runs through what happens until the daemon is told to end. -/
def runThrough (d : Daemon) : List Happening → Completion
  | [] => d.finish
  | .signal .hangUp :: rest => d.reload.runThrough rest
  | .signal .terminate :: _ => d.finish
  | .signal .interrupt :: _ => d.finish
  | .cycles count :: rest => (d.await count).runThrough rest
  | .written path content :: rest => (d.meet path content).runThrough rest

end Daemon

end InferenceFleet.Program
