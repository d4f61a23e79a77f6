import InferenceFleet.Outside.Surroundings
import Std.Async.Select
import Std.Async.Signal

/-!
# The command line

Runs the program on this host. Everything that it decides is decided by functions on values; here
the values are read, the network is asked, and what came of it is printed and brought to the disk.
-/

namespace InferenceFleet.Outside

open Std.Async
open Program (Daemon Host Response Session)
open CommandLine (Command Invocation)

/-- The addresses that a command may probe, each with the time that this may take. -/
def addressesOf (c : FleetConfig) (registry : Registry) : Command → List (Address × Duration)
  | .addPeer address _ => [(address, c.monitor.probeTimeout)]
  | .probe address timeoutSecs =>
      [(address, (timeoutSecs.map Duration.ofSeconds).getD c.monitor.probeTimeout)]
  | .run .. | .status | .route _ =>
      let others := registry.remotePeers.map Peer.address ++ c.seeds
      let thisNode := if c.localEnabled then [(c.endpoint.address, c.endpoint.timeout)] else []
      thisNode ++ others.map (·, c.monitor.probeTimeout)
  | .peers | .removePeer _ => []

/-- The network as a command may find it now. -/
def askNetwork (c : FleetConfig) (registry : Registry) (command : Command) :
    IO (LocalEndpoint → Network) := do
  let transport ← (observeNetwork (addressesOf c registry command)).block
  return Program.httpNetwork transport (← readHardware)

/-- The host, before the network was asked. -/
def readHost (files : FileSystem) (e : Environment) : IO Host := do
  return {
    environment := e, files := files, faults := .none,
    network := Program.httpNetwork .closed ⟨0, .zero, .zero, .zero⟩, clock := ← readClock,
    happenings := [] }

/-- Prints a response, brings its files to the disk, and gives its exit code. -/
def deliver (old : FileSystem) (r : Response) : IO UInt32 := do
  writeBack old r.files
  (← IO.getStdout).putStr r.output
  match r.error, r.exitCode with
  | some e, _ => (← IO.getStderr).putStrLn e.text
  | none, 2 => (← IO.getStderr).putStrLn CommandLine.Help.hint
  | none, _ => pure ()
  return r.exitCode.toUInt32

/-- The signals that the daemon waits for. -/
structure Ears where
  hangUp : Signal.Waiter
  terminate : Signal.Waiter
  interrupt : Signal.Waiter

/-- Listens for the signals from now on. -/
def listen : IO Ears := do
  let hangUp ← Signal.Waiter.mk .sighup true
  let terminate ← Signal.Waiter.mk .sigterm true
  let interrupt ← Signal.Waiter.mk .sigint true
  return ⟨hangUp, terminate, interrupt⟩

/-- Waits for some time, or for the first signal until then. -/
def waitFor (ears : Ears) (time : Duration) : Async (Option Program.Signal) := do
  let timer ← Sleep.mk (.ofNat (time / Duration.ofMillis 1 + 1))
  Selectable.one
    #[.case ears.hangUp.selector fun _ => return some .hangUp,
      .case ears.terminate.selector fun _ => return some .terminate,
      .case ears.interrupt.selector fun _ => return some .interrupt,
      .case timer.selector fun _ => return none]

/-- The daemon in the world as it is now. -/
def refreshed (d : Daemon) (started : Nat) (i : Invocation) : IO Daemon := do
  let network ← askNetwork d.session.config d.session.registry i.command
  let w := (d.session.world.advanceTo ((← IO.monoNanosNow) - started))
  let f := { w.fleet with clock := ← readClock }
  return d.withWorld { w with network := network d.session.config.endpoint, fleet := f }

/-- Lets the daemon go on until it is told to end, and gives its exit code. -/
partial def attend (ears : Ears) (i : Invocation) (started : Nat) (d : Daemon) : IO UInt32 := do
  let now := (← IO.monoNanosNow) - started
  let signal ← (waitFor ears ((d.nextWake?.getD now) - now)).block
  let files := d.session.files
  match signal with
  | none =>
      let d := (← refreshed d started i).poll
      writeBack files d.session.files
      attend ears i started d
  | some .hangUp =>
      let seen ← match d.session.config.peersFile with
        | some path => observe files path
        | none => pure files
      let f := { d.session.world.fleet with files := seen }
      attend ears i started { d with session := d.session.withFleet f }.reload
  | some _ => deliver files (.ofCompletion d.finish)

/-- Runs the daemon. -/
def runDaemon (h : Host) (c : FleetConfig) (i : Invocation) : IO UInt32 := do
  match Session.start h c with
  | .error e => deliver h.files (.ofCompletion (.failed e h.files))
  | .ok s =>
      let ears ← listen
      let started ← IO.monoNanosNow
      let d := Daemon.start s
      writeBack h.files d.session.files
      attend ears i started d

/-- Runs an invocation. -/
def runInvocation (e : Environment) (args : List String) (i : Invocation) : IO UInt32 := do
  let files ← readFiles e i
  let h ← readHost files e
  match i.settings files e with
  | .error _ => deliver files (Program.respond h args)
  | .ok c =>
      match Session.loadPeers files c with
      | .error _ => deliver files (Program.respond h args)
      | .ok registry =>
          let h := { h with network := ← askNetwork c registry i.command }
          match i.command with
          | .run .. => runDaemon h c i
          | _ => deliver files (Program.respond h args)

/-- Runs a command line. -/
def runArguments (args : List String) : IO UInt32 := do
  let e ← readEnvironment
  match CommandLine.read e args with
  | .ok invocation => runInvocation e args invocation
  | .error _ =>
      let h ← readHost ⟨.empty, []⟩ e
      deliver h.files (Program.respond h args)

end InferenceFleet.Outside

/-- The program. -/
def main (args : List String) : IO UInt32 := do
  try InferenceFleet.Outside.runArguments args
  catch e => do
    (← IO.getStderr).putStrLn ("Error: " ++ e.toString)
    return 1
