import InferenceFleet.Scenario.Scene

/-!
# Running a scenario

A step is begun and, if it has to wait, polled until it has ended. At every instant the step comes
before the loops, and when neither can go on the time moves to the least instant at which one of
them can. A loop therefore only runs while a step is waiting, and a step that ends does so before
the loops see that instant again.
-/

namespace InferenceFleet

/-- A step on its way. -/
inductive Activity
  | ended (o : Observation)
  | adding (a : Admission)
  /-- Peers that are added together, with the results there are. -/
  | addingTogether (tasks : List (Admission × Option (Except RegistryError String)))
  | cycling (run : CycleRun)
  | cyclingTwice (first second : CycleRun)
  | forcing (cycle : ForcedCycle)
  | sleeping (due : Duration)
  /-- Waits for the end of a loop, given by its place. -/
  | stopping (place : Nat) (finishedBefore : Bool)
  /-- A step that begins at an instant. -/
  | postponed (due : Duration) (step : Step)
  | both (first second : Activity)

namespace Scene

/-- A step on its way that ends here. -/
def ending (s : Scene) (reply : Reply) : Scene × Activity :=
  (s, .ended (reply, some s.registry.snapshot))

/-- Does a step that does not wait; none is given for one that may have to. -/
def perform? (s : Scene) : Step → Option (Scene × Reply)
  | .script address script =>
      let scripts := match script with
        | some script => s.script.scripts.insert address script
        | none => s.script.scripts.erase address
      some (s.withScript { s.script with scripts := scripts }, .done)
  | .setThisNode plan => some (s.withScript { s.script with thisNode := plan }, .done)
  | .probed =>
      some ({ s with listed := s.world.probed.length }, .addresses (s.world.probed.drop s.listed))
  | .enroll peer => some (s.enroll peer)
  | .registerLocal address c => some (s.withRegistry (s.registry.registerLocal address c), .done)
  | .update id c => some (s.update id c)
  | .markUnavailable id => some (s.change (s.registry.markUnavailable id))
  | .remove id => some (s.remove id)
  | .get id => some (s, .peer (s.registry.get? id))
  | .containsHost host => some (s, .flag (s.registry.containsHost host))
  | .idAtHost host => some (s, .name (s.registry.idAtHost? host))
  | .size => some (s, .size s.registry.size)
  | .snapshot => some (s, .snapshot s.registry.snapshot)
  | .describe => some (s, .summary s.describe)
  | .load name content => some (s.load name content)
  | .save name => some (s.save name)
  | .fileText name => some (s, .content (s.fileText? name))
  | .makeDirectory name => some (s.makeDirectory name)
  | .route request =>
      let (s, result) := s.route request
      some (s, .routed result)
  | .status =>
      let (s, value) := s.status
      some (s, .status value)
  | .statistics => some (s, .statistics s.router.statistics)
  | .newAttempts base limit => some ({ s with attempts := some (.new base limit) }, .done)
  | .nextAttempt =>
      let (s, request) := s.nextAttempt
      some (s, .request request)
  | .routeAttempt =>
      let (s, result) := s.routeAttempt
      some (s, .attempted result)
  | .failAttempt route => some (s.failAttempt route, .done)
  | .attempts ids =>
      some (s, .attempts (s.attempts.map fun a => (a.made, a.excluded.toList, ids.map a.hasFailed)))
  | .cycles =>
      match s.monitor with
      | none => some (s, .noMonitor)
      | some _ => some (s, .count (some s.world.fleet.completed.toNat))
  | .errors =>
      match s.monitor with
      | none => some (s, .noMonitor)
      | some _ =>
          let (failures, s) := s.recentErrors
          some (s, .failures failures)
  | .events =>
      match s.monitor with
      | none => some (s, .noMonitor)
      | some _ =>
          let (s, events) := s.takeEvents
          some (s, .events events)
  | .spawn =>
      match s.monitor with
      | none => some (s, .noMonitor)
      | some _ => some (s.spawn, .done)
  | .dropHandle => some ({ s.stopLoop with handle := none }, .done)
  | .sleep time =>
      some (s.withFleet { s.world.fleet with clock := s.world.fleet.clock.delayed time }, .done)
  | _ => none

/-- A cycle, as far as it gets at the present instant. -/
def pollCycle (c : MonitorConfig) (s : Scene) (run : CycleRun) : Scene × CycleRun :=
  let (world, run) := run.poll c s.world
  ({ s with world := world }, run)

/-- A cycle that is waited for. -/
def cycling (c : MonitorConfig) (s : Scene) (run : CycleRun) : Scene × Activity :=
  let (s, run) := s.pollCycle c run
  match run.report? with
  | some report => s.ending (.report (some report))
  | none => (s, .cycling run)

/-- Two cycles that are waited for. -/
def cyclingTwice (c : MonitorConfig) (s : Scene) (first second : CycleRun) : Scene × Activity :=
  let (s, first) := s.pollCycle c first
  let (s, second) := s.pollCycle c second
  match first.report?, second.report? with
  | some report, some report' => s.ending (.reports report report')
  | _, _ => (s, .cyclingTwice first second)

/-- A cycle that is waited for until its deadline. -/
def forcing (c : MonitorConfig) (s : Scene) (cycle : ForcedCycle) : Scene × Activity :=
  let (world, cycle, result) := cycle.poll c s.world
  let s := { s with world := world }
  match result with
  | some report => s.ending (.report report)
  | none => (s, .forcing cycle)

/-- Starts a cycle that is waited for until its deadline. -/
def beginForcing (c : MonitorConfig) (s : Scene) : Scene × Activity :=
  let (world, cycle) := ForcedCycle.start c s.world
  { s with world := world }.forcing c cycle

/-- A peer that is being added. -/
def adding (s : Scene) (a : Admission) : Scene × Activity :=
  match a.poll s.world with
  | (world, some result) => { s with world := world }.ending (.added result)
  | (world, none) => ({ s with world := world }, .adding a)

/-- Starts to add several peers, and adds those whose probes end at once. -/
def beginTogether (s : Scene) : List (Address × Option String) →
    Scene × List (Admission × Option (Except RegistryError String))
  | [] => (s, [])
  | (address, name) :: rest =>
      match Admission.start s.admissionDeadline s.world address name with
      | .error e =>
          let refused : Admission := ⟨Peer.named address name .unseen, 0, .ok .unseen⟩
          let (s, tasks) := s.beginTogether rest
          (s, (refused, some (.error e)) :: tasks)
      | .ok (world, a) =>
          let (world, result) := a.poll world
          let (s, tasks) := { s with world := world }.beginTogether rest
          (s, (a, result) :: tasks)

/-- Adds the peers whose probes have ended. -/
def pollTogether (s : Scene) : List (Admission × Option (Except RegistryError String)) →
    Scene × List (Admission × Option (Except RegistryError String))
  | [] => (s, [])
  | (a, some result) :: rest =>
      let (s, tasks) := s.pollTogether rest
      (s, (a, some result) :: tasks)
  | (a, none) :: rest =>
      let (world, result) := a.poll s.world
      let (s, tasks) := { s with world := world }.pollTogether rest
      (s, (a, result) :: tasks)

/-- Peers that are being added together. -/
def addingTogether (s : Scene)
    (tasks : List (Admission × Option (Except RegistryError String))) : Scene × Activity :=
  let results := tasks.filterMap Prod.snd
  if results.length = tasks.length then s.ending (.addedTogether results)
  else (s, .addingTogether tasks)

/-- Time that passes. -/
def sleeping (s : Scene) (due : Duration) : Scene × Activity :=
  if due ≤ s.world.now then
    s.ending (.count (s.monitor.map fun _ => s.world.fleet.completed.toNat))
  else (s, .sleeping due)

/-- The loop at a place, unless it is finished. -/
def runningLoop? (s : Scene) (place : Nat) : Option Loop :=
  s.loops[place]?.filter fun l => !l.finished

/-- A loop whose end is waited for. -/
def stopping (s : Scene) (place : Nat) (finishedBefore : Bool) : Scene × Activity :=
  match s.runningLoop? place with
  | some _ => (s, .stopping place finishedBefore)
  | none => s.ending (.stopped finishedBefore s.world.fleet.completed.toNat)

/-- Two steps that overlap. -/
def joined (s : Scene) (first second : Activity) : Scene × Activity :=
  match first, second with
  | .ended o, .ended o' => s.ending (.both o o')
  | first, second => (s, .both first second)

/-- Begins a step, and takes it as far as it gets at the present instant. -/
def begin (s : Scene) : Step → Scene × Activity
  | .addPeer address name =>
      match Admission.start s.admissionDeadline s.world address name with
      | .error e => s.ending (.added (.error e))
      | .ok (world, a) => { s with world := world }.adding a
  | .addTogether adds =>
      let (s, tasks) := s.beginTogether adds
      s.addingTogether tasks
  | .start =>
      match s.monitor with
      | some c => if s.registry.isEmpty then s.beginForcing c else s.ending (.report none)
      | none => s.ending (.report none)
  | .cycle =>
      match s.monitor with
      | none => s.ending .noMonitor
      | some c =>
          let (world, run) := CycleRun.start s.world
          { s with world := world }.cycling c run
  | .forceCycle =>
      match s.monitor with
      | none => s.ending .noMonitor
      | some c => s.beginForcing c
  | .cycleTwice =>
      match s.monitor with
      | none => s.ending .noMonitor
      | some c =>
          let (world, first) := CycleRun.start s.world
          let (s, first) := { s with world := world }.pollCycle c first
          let (world, second) := CycleRun.start s.world
          { s with world := world }.cyclingTwice c first second
  | .advance time => s.sleeping (s.world.now + time)
  | .shutdown =>
      match s.handle with
      | none => s.ending .notRunning
      | some place =>
          let finishedBefore := (s.runningLoop? place).isNone
          { s.stopLoop with handle := none }.stopping place finishedBefore
  | .during first after second =>
      let due := s.world.now + after
      let (s, first) := s.begin first
      if due ≤ s.world.now then
        let (s, second) := s.begin second
        s.joined first second
      else s.joined first (.postponed due second)
  | step =>
      match s.perform? step with
      | some (s, reply) => (s, .ended (s.observe step reply))
      | none => s.ending .done

/-- A step on its way, as far as it gets at the present instant. -/
def poll (s : Scene) : Activity → Scene × Activity
  | .ended o => (s, .ended o)
  | .adding a => s.adding a
  | .addingTogether tasks =>
      let (s, tasks) := s.pollTogether tasks
      s.addingTogether tasks
  | .cycling run =>
      match s.monitor with
      | some c => s.cycling c run
      | none => s.ending .noMonitor
  | .cyclingTwice first second =>
      match s.monitor with
      | some c => s.cyclingTwice c first second
      | none => s.ending .noMonitor
  | .forcing cycle =>
      match s.monitor with
      | some c => s.forcing c cycle
      | none => s.ending .noMonitor
  | .sleeping due => s.sleeping due
  | .stopping place finishedBefore => s.stopping place finishedBefore
  | .postponed due step => if due ≤ s.world.now then s.begin step else (s, .postponed due step)
  | .both first second =>
      let (s, first) := s.poll first
      let (s, second) := s.poll second
      s.joined first second

/-- The instants at which a step can go on. -/
def wakes (s : Scene) : Activity → List Duration
  | .ended _ => []
  | .adding a => [a.due]
  | .addingTogether tasks => (tasks.filter fun t => t.2.isNone).map fun t => t.1.due
  | .cycling run => run.wakes s.world
  | .cyclingTwice first second => first.wakes s.world ++ second.wakes s.world
  | .forcing cycle => cycle.wakes s.world
  | .sleeping due => [due]
  | .stopping place _ => if (s.runningLoop? place).isNone then [s.world.now] else []
  | .postponed due _ => [due]
  | .both first second => s.wakes first ++ s.wakes second

/-- Takes the loops, in the order they were started, as far as they get at the present instant. -/
def pollLoops (s : Scene) : Scene :=
  match s.monitor with
  | none => s
  | some c =>
      let (world, loops) := s.loops.foldl (fun (world, done) l =>
        let (world, l) := l.poll c world
        (world, done ++ [l])) (s.world, [])
      { s with world := world, loops := loops }

/-- The next instant at which a step or a loop can go on. -/
def nextWake? (s : Scene) (a : Activity) : Option Duration :=
  Duration.least? (s.wakes a ++ s.loops.flatMap (Loop.wakes s.world))

/-- The scene at an instant that is not over yet. -/
def advanceTo (s : Scene) (t : Duration) : Scene :=
  { s with world := s.world.advanceTo t }

/-- Runs a step that was begun until it has ended, with `fuel` instants at most. -/
def runFrom : Nat → Scene → Activity → Scene × Option Observation
  | 0, s, _ => (s, none)
  | fuel + 1, s, a =>
      match a with
      | .ended o => (s, some o)
      | a =>
          let s := s.pollLoops
          match s.nextWake? a with
          | none => (s, none)
          | some t =>
              let (s, a) := (s.advanceTo t).poll a
              runFrom fuel s a

/-- How many instants a step is given. -/
def instants : Nat := 1000000000

/-- Runs one step. -/
def runStep (s : Scene) (step : Step) : Scene × Option Observation :=
  let (s, a) := s.begin step
  runFrom instants s a

/-- Runs a list of steps. -/
def run (s : Scene) : List Step → List (Option Observation)
  | [] => []
  | step :: rest =>
      let (s, o) := s.runStep step
      o :: s.run rest

end Scene

end InferenceFleet
