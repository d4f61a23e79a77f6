import InferenceFleet.Peer.Document
import InferenceFleet.Registry.Error

/-!
# Peer records

The form in which a peer is kept in a file. A record does not repeat the identifier if it is the
host, and may lack a capability. Turning a record into a peer checks the address first and the
capability after it.
-/

namespace InferenceFleet

/-- A peer as it is kept in a file. -/
structure PeerRecord where
  name : Option String
  host : String
  port : UInt16
  capability : Option Capability

namespace PeerRecord

open InferenceFleet.Tree

/-- The record of a peer. -/
def ofPeer (p : Peer) : PeerRecord :=
  { name := if p.id = p.address.host then none else some p.id
    host := p.address.host
    port := p.address.port
    capability := some p.capability }

/-- The peer that a record is about. -/
def toPeer (r : PeerRecord) : Except RegistryError Peer :=
  let address : Address := ⟨r.host, r.port⟩
  match address.check with
  | .error e => .error (.ofAddress e)
  | .ok () =>
      let capability := r.capability.getD .unseen
      match capability.check with
      | .error fault =>
          .error (.invalidAddress r.host r.port ("invalid capabilities: " ++ fault.message))
      | .ok () => .ok (Peer.named address r.name capability)

/-- The members of a record. -/
def members : List Member :=
  [.only "name", .only "ip", .only "port", ⟨"capabilities", ["capability"]⟩]

/-- The document of a record; a record without name says nothing about it. -/
def toTree (r : PeerRecord) : Tree :=
  let name := match r.name with
    | some name => [("name", Tree.text name)]
    | none => []
  let capability := match r.capability with
    | some c => c.toTree
    | none => .null
  .record
    (name ++ [("ip", .text r.host), ("port", .integer r.port.toNat), ("capabilities", capability)])

/-- The record that a document stands for. -/
def ofTree? (t : Tree) : Option PeerRecord := do
  let fields ← t.members? .json members
  let name ← optional? text? "name" fields
  let host ← required? text? "ip" fields
  let port ← defaulting? word16? defaultPort "port" fields
  let capability ← optional? Capability.ofTree? "capabilities" fields
  some { name, host, port, capability }

end PeerRecord

end InferenceFleet
