import InferenceFleet.Timeline.World

/-!
# Runs of a cycle

A cycle in time: it waits for the lock, for the answer of this node, for the batch of the
registered peers and for the batch of the seeds, and does the steps of a cycle as soon as it has
what they need. Polling a run takes it as far as it gets at the present instant; polling it again
at the same instant changes nothing unless the lock was handed to it. A run that is cancelled
gives up the lock and leaves the rest of the world as it is.
-/

namespace InferenceFleet

/-- What a run is waiting for. -/
inductive CycleStage
  | lock
  | thisNode (due : Duration) (answer : Capability)
  | peers (report : CycleReport) (batch : Batch)
  | seeds (report : CycleReport) (batch : Batch)
  | finished (report : CycleReport)

/-- A cycle in time, under the ticket that it has for the lock. -/
structure CycleRun where
  ticket : Nat
  stage : CycleStage

namespace CycleRun

/-- A new run, which has asked for the lock. -/
def start (w : World) : World × CycleRun :=
  let (ticket, lock) := w.lock.request
  ({ w with lock := lock }, ⟨ticket, .lock⟩)

/-- Ends a run: the cycle is completed and the lock handed on. -/
def finish (c : MonitorConfig) (ticket : Nat) (w : World) (report : CycleReport) :
    World × CycleStage :=
  let (fleet, report) := Cycle.complete c w.fleet report
  ({ w with fleet := fleet, lock := w.lock.release ticket }, .finished report)

/-- Waits for the batch of the seeds. -/
def pollSeeds (c : MonitorConfig) (ticket : Nat) (w : World) (report : CycleReport) (b : Batch) :
    World × CycleStage :=
  let (w, b) := w.pollBatch c b
  if b.isFinished then
    let (fleet, report) := Cycle.applySeeds w.fleet report b.answered
    finish c ticket { w with fleet := fleet } report
  else (w, .seeds report b)

/-- Waits for the batch of the registered peers. -/
def pollPeers (c : MonitorConfig) (ticket : Nat) (w : World) (report : CycleReport) (b : Batch) :
    World × CycleStage :=
  let (w, b) := w.pollBatch c b
  if b.isFinished then
    let (fleet, report) := Cycle.applyOutcomes w.fleet report b.answered
    let w := { w with fleet := fleet }
    pollSeeds c ticket w report (.new (Cycle.candidates w.fleet c.seeds))
  else (w, .peers report b)

/-- Starts the batch of the registered peers. -/
def enterPeers (c : MonitorConfig) (ticket : Nat) (w : World) (report : CycleReport) :
    World × CycleStage :=
  let targets := Cycle.targets w.fleet
  pollPeers c ticket w { report with probed := targets.length } (.new targets)

/-- Waits for the answer of this node. -/
def pollThisNode (c : MonitorConfig) (ticket : Nat) (w : World) (address : Address)
    (due : Duration) (answer : Capability) : World × CycleStage :=
  if due ≤ w.now then
    enterPeers c ticket { w with fleet := Cycle.applyLocal w.fleet address answer }
      (Cycle.localReport answer)
  else (w, .thisNode due answer)

/-- Begins the cycle, once the lock is held. -/
def enter (c : MonitorConfig) (ticket : Nat) (w : World) : World × CycleStage :=
  match c.localAddress with
  | none => enterPeers c ticket w .zero
  | some address =>
      let plan := w.network.thisNode w.fleet.clock.now.wall
      pollThisNode c ticket w address (w.now + plan.delay) plan.result

/-- A stage, as far as it gets at the present instant. -/
def pollStage (c : MonitorConfig) (ticket : Nat) (w : World) : CycleStage → World × CycleStage
  | .lock => if w.lock.holder = some ticket then enter c ticket w else (w, .lock)
  | .thisNode due answer =>
      match c.localAddress with
      | some address => pollThisNode c ticket w address due answer
      | none => enterPeers c ticket w .zero
  | .peers report b => pollPeers c ticket w report b
  | .seeds report b => pollSeeds c ticket w report b
  | .finished report => (w, .finished report)

/-- The run, as far as it gets at the present instant. -/
def poll (c : MonitorConfig) (w : World) (r : CycleRun) : World × CycleRun :=
  let (w, stage) := pollStage c r.ticket w r.stage
  (w, { r with stage := stage })

/-- Gives up a run. -/
def cancel (w : World) (r : CycleRun) : World :=
  match r.stage with
  | .finished _ => w
  | _ => { w with lock := w.lock.release r.ticket }

/-- The report of a run that is finished. -/
def report? (r : CycleRun) : Option CycleReport :=
  match r.stage with
  | .finished report => some report
  | _ => none

/-- The instants at which a run can go on. -/
def wakes (w : World) (r : CycleRun) : List Duration :=
  match r.stage with
  | .lock => if w.lock.holder = some r.ticket then [w.now] else []
  | .thisNode due _ => [due]
  | .peers _ b => b.inFlight.map Flight.due
  | .seeds _ b => b.inFlight.map Flight.due
  | .finished _ => []

end CycleRun

/-- A run that is waited for until a deadline. -/
structure ForcedCycle where
  deadline : Duration
  run : CycleRun

namespace ForcedCycle

/-- A run that is waited for as long as the settings say, counted from now. -/
def start (c : MonitorConfig) (w : World) : World × ForcedCycle :=
  let (w, run) := CycleRun.start w
  (w, ⟨w.now + c.startupWait, run⟩)

/-- The run, as far as it gets at the present instant, and its end if there is one: a report, or
none because the deadline has come first. -/
def poll (c : MonitorConfig) (w : World) (f : ForcedCycle) :
    World × ForcedCycle × Option (Option CycleReport) :=
  let (w, run) := f.run.poll c w
  match run.report? with
  | some report => (w, { f with run := run }, some (some report))
  | none =>
      if f.deadline ≤ w.now then (run.cancel w, { f with run := run }, some none)
      else (w, { f with run := run }, none)

/-- The instants at which a forced cycle can go on. -/
def wakes (w : World) (f : ForcedCycle) : List Duration := f.deadline :: f.run.wakes w

/-- A forced cycle that nothing runs beside, until its end, at `fuel` instants at most. -/
def finishFrom (c : MonitorConfig) : Nat → World → ForcedCycle → World × Option CycleReport
  | 0, w, f => (f.run.cancel w, none)
  | fuel + 1, w, f =>
      match f.poll c w with
      | (w, _, some result) => (w, result)
      | (w, f, none) => finishFrom c fuel (w.advanceTo ((f.run.wakes w).foldl min f.deadline)) f

/-- How many instants a forced cycle is given: one to start at, one for the answer of this node,
one for each peer and each seed, and one for the deadline. -/
def instants (c : MonitorConfig) (w : World) : Nat :=
  w.fleet.registry.size + c.seeds.length + 3

/-- Runs a forced cycle that nothing runs beside; gives its report unless the deadline comes
first. -/
def complete (c : MonitorConfig) (w : World) : World × Option CycleReport :=
  let (w, f) := start c w
  finishFrom c (instants c w) w f

end ForcedCycle

end InferenceFleet
