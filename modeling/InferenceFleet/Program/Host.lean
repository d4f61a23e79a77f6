import InferenceFleet.Config.Environment
import InferenceFleet.Files.Replacement
import InferenceFleet.Probe.Exchange
import InferenceFleet.Probe.LocalEndpoint
import InferenceFleet.Timeline.World

/-!
# What the program finds outside itself

The environment, the files, the network, the clocks, and what reaches the program while it runs.
Nothing about them is fixed here, so that what is said of the program holds on every host.
-/

namespace InferenceFleet.Program

/-- A signal that the program knows. -/
inductive Signal
  /-- The peer file is to be read again. -/
  | hangUp
  /-- The program is to end. -/
  | terminate
  /-- The program is to end. -/
  | interrupt
  deriving DecidableEq

/-- Something that happens while the program runs. -/
inductive Happening
  | signal (s : Signal)
  /-- The monitor finishes cycles until there were so many. -/
  | cycles (count : Nat)
  /-- A file is written by somebody else. -/
  | written (path : String) (content : ByteArray)

/-- What the program finds outside itself. -/
structure Host where
  environment : Environment
  files : FileSystem
  /-- What goes wrong when the registry is saved. -/
  faults : FileSystem.Faults
  /-- The network, by the model server of this host. -/
  network : LocalEndpoint → Network
  clock : Clock
  /-- What happens while the program runs, in order. After that it is told to end. -/
  happenings : List Happening

/-- The network of a transport, on a host with some hardware. An answer is stamped with the time
at which the probe has ended; how long a probe takes does not depend on what stamp it gives. -/
def httpNetwork (transport : Transport) (hardware : Exchange.Hardware) (e : LocalEndpoint) :
    Network :=
  { remote := fun address deadline start =>
      let probe := Exchange.probe transport deadline address
      let delay := (probe start).1
      ⟨delay, (probe (start.addNanos delay)).2⟩
    thisNode := fun start =>
      let probe := Exchange.probeLocal transport hardware e.timeout e.address
      let delay := (probe start).1
      ⟨delay, (probe (start.addNanos delay)).2⟩ }

end InferenceFleet.Program
