import InferenceFleet.Json.Reader
import InferenceFleet.Peer.Document

/-!
# What nodes answer

Two documents that a node may answer a probe with: the capability document, in which every
member may be missing, and the plain list of its models. Each is turned into a capability that is
available and stamped with the time it was received, or refused.
-/

namespace InferenceFleet

open InferenceFleet.Tree

/-- The capability document of a node. -/
structure CapabilityDocument where
  cpuCores : UInt32
  memoryGb : Binary64
  gpuMemoryGb : Binary64
  models : List String
  load : Binary64

namespace CapabilityDocument

/-- The members of the document. -/
def members : List Member :=
  [.only "cpu_cores", .only "memory_gb", .only "gpu_memory_gb", .only "models", .only "load_avg"]

/-- The capability document that a tree stands for. -/
def ofTree? (t : Tree) : Option CapabilityDocument := do
  let fields ← t.members? .json members
  let cpuCores ← defaulting? word32? 0 "cpu_cores" fields
  let memoryGb ← defaulting? number? .zero "memory_gb" fields
  let gpuMemoryGb ← defaulting? number? .zero "gpu_memory_gb" fields
  let models ← defaulting? texts? [] "models" fields
  let load ← defaulting? number? .zero "load_avg" fields
  some { cpuCores, memoryGb, gpuMemoryGb, models, load }

/-- The capability that a document tells of, received at some time. -/
def toCapability (d : CapabilityDocument) (now : Timestamp) : Except String Capability :=
  let c : Capability :=
    { cpuCores := d.cpuCores, memoryGb := d.memoryGb, gpuMemoryGb := d.gpuMemoryGb,
      models := .ofList d.models, load := d.load, available := true, lastSeen := now }
  match c.check with
  | .error fault => .error fault.message
  | .ok () => .ok c

end CapabilityDocument

/-- The list of the models of a node. -/
structure ModelList where
  names : List String

namespace ModelList

/-- The name in an entry of the list. -/
def name? (t : Tree) : Option String := do
  required? text? "name" (← t.members? .json [.only "name"])

/-- The list of models that a tree stands for. -/
def ofTree? (t : Tree) : Option ModelList := do
  let names ← required? (list? name?) "models" (← t.members? .json [.only "models"])
  some ⟨names⟩

/-- The capability of a node of which only the models are known, received at some time. -/
def toCapability (l : ModelList) (now : Timestamp) : Except String Capability :=
  if l.names.any Text.isBlankText then .error "model list contains an empty name"
  else
    .ok { Capability.unseen with models := .ofList l.names, available := true, lastSeen := now }

end ModelList

end InferenceFleet
