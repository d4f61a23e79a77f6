import InferenceFleet.Document.Decoder
import InferenceFleet.Peer.Basic

/-!
# Peers as documents

The document form of addresses, capabilities and peers. A capability may leave out any member,
which then has the value of an unseen node; an address and a peer are written in full. Model
identifiers are a list, ascending and without repetition when written. Decoding what was encoded
gives the value back.
-/

namespace InferenceFleet

namespace Tree

/-- A whole number of 16 bits. -/
def word16? (t : Tree) : Option UInt16 := (t.word? Text.maxWord16).map UInt16.ofNat

/-- A whole number of 32 bits. -/
def word32? (t : Tree) : Option UInt32 := (t.word? Text.maxWord32).map UInt32.ofNat

/-- A list of texts. -/
def texts? (t : Tree) : Option (List String) := t.list? text?

/-- The list of texts as a tree. -/
def ofTexts (items : List String) : Tree := .list (items.map .text)

end Tree

open InferenceFleet.Tree

namespace Address

/-- The members of an address. -/
def members : List Member := [.only "ip", .only "port"]

/-- The document of an address. -/
def toTree (a : Address) : Tree :=
  .record [("ip", .text a.host), ("port", .integer a.port.toNat)]

/-- The address that a document stands for. -/
def ofTree? (t : Tree) : Option Address := do
  let fields ← t.members? .json members
  let host ← required? text? "ip" fields
  let port ← required? word16? "port" fields
  some ⟨host, port⟩

end Address

namespace Capability

/-- The members of a capability. -/
def members : List Member :=
  [.only "cpu_cores", .only "memory_gb", .only "gpu_memory_gb", .only "models", .only "load_avg",
    .only "available", .only "last_seen"]

/-- The document of a capability. -/
def toTree (c : Capability) : Tree :=
  .record
    [("cpu_cores", .integer c.cpuCores.toNat), ("memory_gb", .number c.memoryGb),
      ("gpu_memory_gb", .number c.gpuMemoryGb), ("models", ofTexts c.models.toList),
      ("load_avg", .number c.load), ("available", .bool c.available),
      ("last_seen", .text c.lastSeen.text)]

/-- The capability that a document stands for. -/
def ofTree? (t : Tree) : Option Capability := do
  let fields ← t.members? .json members
  let cpuCores ← defaulting? word32? 0 "cpu_cores" fields
  let memoryGb ← defaulting? number? .zero "memory_gb" fields
  let gpuMemoryGb ← defaulting? number? .zero "gpu_memory_gb" fields
  let models ← defaulting? texts? [] "models" fields
  let load ← defaulting? number? .zero "load_avg" fields
  let available ← defaulting? bool? false "available" fields
  let lastSeen ←
    defaulting? (fun t => t.text?.bind Timestamp.read?) Timestamp.epoch "last_seen" fields
  some
    { cpuCores, memoryGb, gpuMemoryGb, models := TextSet.ofList models, load, available, lastSeen }

end Capability

namespace Peer

/-- The members of a peer. -/
def members : List Member := [.only "id", .only "addr", .only "capability"]

/-- The document of a peer. -/
def toTree (p : Peer) : Tree :=
  .record
    [("id", .text p.id), ("addr", p.address.toTree), ("capability", p.capability.toTree)]

/-- The peer that a document stands for. -/
def ofTree? (t : Tree) : Option Peer := do
  let fields ← t.members? .json members
  let id ← required? text? "id" fields
  let address ← required? Address.ofTree? "addr" fields
  let capability ← required? Capability.ofTree? "capability" fields
  some ⟨id, address, capability⟩

end Peer

end InferenceFleet
