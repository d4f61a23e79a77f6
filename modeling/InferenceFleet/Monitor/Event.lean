import InferenceFleet.FailureClass
import InferenceFleet.Peer.Address
import InferenceFleet.Binary64.Basic

/-!
# What the monitor tells

The report of a finished cycle, and the events by which a cycle can be followed.
-/

namespace InferenceFleet

/-- The report of a finished cycle. The time that the cycle took is left out: nothing depends on
it. -/
structure CycleReport where
  /-- The number of the cycle; the first is 1. -/
  cycle : UInt64
  /-- How many registered peers were probed. -/
  probed : Nat
  succeeded : Nat
  failed : Nat
  /-- How many peers were taken into the fleet. -/
  discovered : Nat
  /-- Whether this node was probed and is available. -/
  localAvailable : Bool
  deriving DecidableEq

/-- The report of a cycle that has done nothing yet. -/
def CycleReport.zero : CycleReport := ⟨0, 0, 0, 0, 0, false⟩

/-- What happened in a cycle. -/
inductive ProbeEvent
  | succeeded (peerId : String) (models : Nat) (load : Binary64)
  | failed (peerId : String) (failureClass : FailureClass)
  | discovered (peerId : String) (address : Address)
  | completed (report : CycleReport)
  deriving DecidableEq

end InferenceFleet
