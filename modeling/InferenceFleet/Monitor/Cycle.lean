import InferenceFleet.Monitor.Fleet

/-!
# Cycles

What a cycle does to the shared state, as four steps without waiting in between; the waiting, for
answers, is elsewhere. First this node's own capability is entered. Then the answers of the
registered peers are applied, in the order they came. Then the seeds that answered are taken in.
Last the registry is saved if anything was learned, and the cycle is counted and reported.

A step depends on the state that it finds and on the answers alone. A cycle that is given up
between two steps has done the steps before, and nothing of those after.
-/

namespace InferenceFleet

/-- What a probe brought. -/
abbrev Outcome := Except ProbeError Capability

/-- An address to probe, and the name that its outcome goes by. -/
structure Target where
  id : String
  address : Address
  deriving DecidableEq

namespace Cycle

/-- Enters what is known of this node. -/
def applyLocal (f : Fleet) (address : Address) (c : Capability) : Fleet :=
  { f with registry := f.registry.registerLocal address c }

/-- The report once this node was asked. -/
def localReport (c : Capability) : CycleReport :=
  { CycleReport.zero with localAvailable := c.available }

/-- The registered peers to probe. -/
def targets (f : Fleet) : List Target :=
  f.registry.remotePeers.map fun p => ⟨p.id, p.address⟩

/-- Applies the outcome for a registered peer. A peer that was removed meanwhile is left out. -/
def applyOutcome (state : Fleet × CycleReport) (result : Target × Outcome) :
    Fleet × CycleReport :=
  let (f, report) := state
  let (target, outcome) := result
  match outcome with
  | .ok c =>
      match f.update target.id c with
      | .error _ => (f, report)
      | .ok f =>
          (f.emit (.succeeded target.id c.models.size c.load),
            { report with succeeded := report.succeeded + 1 })
  | .error e =>
      (((f.markUnavailable target.id).recordFailure target.id e).emit
          (.failed target.id e.failureClass),
        { report with failed := report.failed + 1 })

/-- Applies the outcomes for the registered peers, in the order they came. -/
def applyOutcomes (f : Fleet) (report : CycleReport) (results : List (Target × Outcome)) :
    Fleet × CycleReport :=
  results.foldl applyOutcome (f, report)

/-- The seeds to probe: those at hosts where no peer is. -/
def candidates (f : Fleet) (seeds : List Address) : List Target :=
  (seeds.filter fun a => !f.registry.containsHost a.host).map fun a => ⟨a.text, a⟩

/-- Applies the outcome for a seed. A seed that answered is taken in under its host, unless there
is a reason not to. -/
def applySeed (state : Fleet × Nat) (result : Target × Outcome) : Fleet × Nat :=
  let (f, discovered) := state
  let (target, outcome) := result
  match outcome with
  | .ok c =>
      let peer := Peer.named target.address none c
      match f.registry.enroll peer with
      | .error _ => (f, discovered)
      | .ok registry =>
          ({ f with registry := registry }.emit (.discovered peer.id target.address),
            discovered + 1)
  | .error e => (f.recordFailure target.id e, discovered)

/-- Applies the outcomes for the seeds, in the order they came. -/
def applySeeds (f : Fleet) (report : CycleReport) (results : List (Target × Outcome)) :
    Fleet × CycleReport :=
  let (f, discovered) := results.foldl applySeed (f, 0)
  (f, { report with discovered := discovered })

/-- Saves the registry if anything was learned; that it cannot be saved changes nothing else. -/
def persist (c : MonitorConfig) (f : Fleet) (report : CycleReport) : Fleet :=
  match c.peersFile with
  | some path =>
      if 0 < report.succeeded + report.discovered then
        { f with files := (f.registry.save f.faults f.files path).2 }
      else f
  | none => f

/-- Saves, counts and reports a cycle. -/
def complete (c : MonitorConfig) (f : Fleet) (report : CycleReport) : Fleet × CycleReport :=
  let f := persist c f report
  let report := { report with cycle := f.completed + 1 }
  ({ f with completed := f.completed + 1 }.emit (.completed report), report)

end Cycle

end InferenceFleet
