import InferenceFleet.Binary64.Basic
import InferenceFleet.Decimal.Reading
import InferenceFleet.Probe.Exchange
import InferenceFleet.Text.Blank
import InferenceFleet.Text.Lines

/-!
# Readings of this host

The texts by which a host tells of itself: a table of memory sizes, a line of load averages, one
line for each graphics device, and a table of its cores. Amounts of memory come out in GiB, the
load on a scale from 0 to 100 relative to the number of cores.
-/

namespace InferenceFleet.HostReadings

/-- The number that the first word of a list of characters stands for. -/
def firstNumber? (cs : List Char) : Option Float :=
  (Text.firstWord? cs).bind Decimal.readFloat?

/-- Kibibytes in a gibibyte. -/
def kibPerGib : Float := 1048576.0

/-- Mebibytes in a gibibyte. -/
def mibPerGib : Float := 1024.0

/-- What follows the name of the total in a line of a memory table. -/
def afterTotal? (line : List Char) : Option (List Char) :=
  let name := "MemTotal:".toList
  if name.isPrefixOf line then some (line.drop name.length) else none

/-- The total memory in GiB, by a table of sizes in KiB. Only the first line that names the total
counts. -/
def memory? (table : String) : Option Binary64 := do
  let rest ← (Text.lines table).findSome? afterTotal?
  let kib ← firstNumber? rest
  some (.ofFloat (kib / kibPerGib))

/-- The load of a host with some cores, by its load average over one minute. -/
def load? (averages : String) (cores : Nat) : Option Binary64 := do
  let average ← firstNumber? averages.toList
  if !(Binary64.ofFloat average).isFinite || average < 0.0 then none
  else
    let percent := average / (Decimal.nearest (max cores 1) 0) * 100.0
    some (.ofFloat (if percent < 100.0 then percent else 100.0))

/-- The number of cores in a table with a line for each. -/
def cores (table : String) : Nat :=
  (Text.lines table).countP fun line => "processor".toList.isPrefixOf line

/-- The memory of all graphics devices in GiB, by one line in MiB for each. Lines that are not a
number do not count, and no devices at all have minus zero. -/
def gpuMemory (devices : String) : Binary64 :=
  let amounts := (Text.lines devices).filterMap fun line =>
    Decimal.readFloat? (Text.trimChars line)
  .ofFloat (amounts.foldl (· + ·) (-0.0) / mibPerGib)

/-- The hardware of a host with some cores, by the texts that could be had of it. What they do not
tell is zero. -/
def hardware (cores : UInt32) (table? averages? devices? : Option String) : Exchange.Hardware where
  cpuCores := cores
  memoryGb := (table?.bind memory?).getD .zero
  gpuMemoryGb := (devices?.map gpuMemory).getD .zero
  load := (averages?.bind fun averages => load? averages cores.toNat).getD .zero

end InferenceFleet.HostReadings
