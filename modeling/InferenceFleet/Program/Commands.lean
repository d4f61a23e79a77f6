import InferenceFleet.CommandLine.Command
import InferenceFleet.Program.Session
import InferenceFleet.Routing.Document
import InferenceFleet.Timeline.Admission

/-!
# Commands that end by themselves

Each command opens a session, does one thing and shows one document. Those that change the fleet
save it first, and show the change only once that is done.
-/

namespace InferenceFleet.Program

/-- What came of a command: the document that it shows, if any, or why it failed; and the files
after it. -/
structure Completion where
  result : Except CommandError (Option Tree)
  files : FileSystem

namespace Completion

/-- A command that shows a document. -/
def shown (t : Tree) (files : FileSystem) : Completion := ⟨.ok (some t), files⟩

/-- A command that failed. -/
def failed (e : CommandError) (files : FileSystem) : Completion := ⟨.error e, files⟩

/-- A command that shows a document once the session was saved. -/
def saved (s : Session) (t : Tree) : Completion :=
  match s.save with
  | (.ok (), s) => shown t s.files
  | (.error e, s) => failed e s.files

end Completion

namespace Session

/-- Shows the status of the fleet after a cycle. -/
def showStatus (s : Session) : Completion :=
  let (s, _) := s.cycle
  .shown s.status.toTree s.files

/-- Shows the registered peers. -/
def showPeers (s : Session) : Completion :=
  .shown (.list (s.registry.snapshot.map Peer.toTree)) s.files

/-- Probes and registers a peer, and shows it. -/
def addPeer (s : Session) (address : Address) (name : Option String) : Completion :=
  match Admission.complete s.config.monitor.probeTimeout s.world address name with
  | (_, .error e) => .failed (.refused e) s.files
  | (world, .ok id) =>
      let s := { s with world := world }
      match s.registry.get? id with
      | some p => .saved s p.toTree
      | none => .failed (.refused (.notFound id)) s.files

/-- Removes a peer, and shows it. -/
def removePeer (s : Session) (id : String) : Completion :=
  match s.registry.remove id with
  | .error e => .failed (.refused e) s.files
  | .ok (p, registry) => .saved (s.withFleet { s.world.fleet with registry := registry }) p.toTree

/-- Shows where a task would run, after a cycle. -/
def showRoute (s : Session) (r : Request) : Completion :=
  let (s, _) := s.cycle
  match s.router.route s.registry.snapshot r with
  | (.ok route, _) => .shown route.toTree s.files
  | (.error e, _) => .failed (.unroutable e) s.files

end Session

/-- Probes an address, and shows what it answers. No session is opened. -/
def showProbe (h : Host) (c : FleetConfig) (address : Address) (deadline : Duration) : Completion :=
  match ((h.network c.endpoint).remote address deadline h.clock.now.wall).result with
  | .ok capability => .shown capability.toTree h.files
  | .error e => .failed (.probing address e) h.files

end InferenceFleet.Program
