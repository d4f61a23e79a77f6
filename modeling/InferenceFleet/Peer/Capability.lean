import InferenceFleet.Decimal.Layout
import InferenceFleet.Text.Blank
import InferenceFleet.Text.Set
import InferenceFleet.Time.Timestamp

/-!
# Capabilities

What is known of one node: its cores and memory, the models it serves, its load on a scale from
0 to 100, whether it answered when it was last asked, and when it last did. A capability is
*sound* if its load is on the scale, its amounts of memory are finite and not negative, and no
model identifier is blank.
-/

namespace InferenceFleet

/-- What is known of one node. -/
structure Capability where
  /-- Logical cores. -/
  cpuCores : UInt32
  /-- Memory in GiB. -/
  memoryGb : Binary64
  /-- Memory of all graphics devices in GiB. -/
  gpuMemoryGb : Binary64
  /-- The models the node serves. -/
  models : TextSet
  /-- Load on a scale from 0 to 100. -/
  load : Binary64
  /-- Whether the last probe succeeded. -/
  available : Bool
  /-- When a probe last succeeded. -/
  lastSeen : Timestamp
  deriving DecidableEq, Inhabited

/-- Why a capability is refused. -/
inductive CapabilityFault
  | loadOffScale (load : Binary64)
  | notAnAmountOfMemory (amount : Binary64)
  | notAnAmountOfGpuMemory (amount : Binary64)
  | blankModel
  deriving DecidableEq

/-- A fault in words. -/
def CapabilityFault.message : CapabilityFault → String
  | .loadOffScale load => "load_avg " ++ Decimal.messageText load ++ " outside 0-100"
  | .notAnAmountOfMemory amount =>
      "memory_gb must be a non-negative number, got " ++ Decimal.messageText amount
  | .notAnAmountOfGpuMemory amount =>
      "gpu_memory_gb must be a non-negative number, got " ++ Decimal.messageText amount
  | .blankModel => "model identifiers must be non-empty"

namespace Capability

/-- A node of which nothing is known: it never answered. -/
def unseen : Capability :=
  { cpuCores := 0, memoryGb := .zero, gpuMemoryGb := .zero, models := ∅, load := .zero,
    available := false, lastSeen := Timestamp.epoch }

/-- Whether the node serves a model. -/
def serves (c : Capability) (model : String) : Bool :=
  c.models.contains model

/-- The greatest load of the scale, 100. -/
def maxLoad : Binary64 := ⟨0x4059000000000000⟩

/-- A load on the scale. -/
def isLoad (x : Binary64) : Bool :=
  x.isFinite && decide (0 ≤ x.valueKey) && decide (x.valueKey ≤ maxLoad.valueKey)

/-- A finite amount that is not negative; minus zero is none that is. -/
def isAmount (x : Binary64) : Bool :=
  x.isFinite && decide (0 ≤ x.valueKey)

/-- The first fault of a capability. -/
def fault? (c : Capability) : Option CapabilityFault :=
  if !isLoad c.load then some (.loadOffScale c.load)
  else if !isAmount c.memoryGb then some (.notAnAmountOfMemory c.memoryGb)
  else if !isAmount c.gpuMemoryGb then some (.notAnAmountOfGpuMemory c.gpuMemoryGb)
  else if c.models.toList.any Text.isBlankText then some .blankModel
  else none

/-- A capability without fault. -/
def IsSound (c : Capability) : Prop := c.fault? = none

/-- Accepts sound capabilities only. -/
def check (c : Capability) : Except CapabilityFault Unit :=
  match c.fault? with
  | some fault => .error fault
  | none => .ok ()

theorem isSound_iff {c : Capability} :
    c.IsSound ↔ isLoad c.load = true ∧ isAmount c.memoryGb = true ∧ isAmount c.gpuMemoryGb = true
      ∧ ∀ m ∈ c.models.toList, Text.isBlankText m = false := by
  unfold IsSound fault?
  cases isLoad c.load <;> cases isAmount c.memoryGb <;> cases isAmount c.gpuMemoryGb <;> simp

end Capability

end InferenceFleet
