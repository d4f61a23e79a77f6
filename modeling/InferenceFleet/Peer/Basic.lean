import InferenceFleet.Peer.Address
import InferenceFleet.Peer.Capability

/-!
# Peers

A peer is a node of the fleet: an identifier, an address and a capability. The identifier is the
name that was given to the node, or its host if there is none. One identifier is reserved for
the node that this program runs on.
-/

namespace InferenceFleet

/-- The identifier of this node. -/
def localId : String := "local"

/-- A node of the fleet. -/
structure Peer where
  id : String
  address : Address
  capability : Capability
  deriving DecidableEq, Inhabited

namespace Peer

/-- The identifier of a node at an address: its name without outer blanks, or its host. -/
def idOf (address : Address) (name : Option String) : String :=
  match name.map Text.trim with
  | some name => if name = "" then address.host else name
  | none => address.host

/-- The node at an address, under its name or its host. -/
def named (address : Address) (name : Option String) (capability : Capability) : Peer :=
  ⟨idOf address name, address, capability⟩

/-- Whether the peer is this node. -/
def isLocal (p : Peer) : Bool := p.id == localId

/-- Whether the last probe of the peer succeeded. -/
def isAvailable (p : Peer) : Bool := p.capability.available

/-- Whether the peer is available and serves a model. -/
def serves (p : Peer) (model : String) : Bool :=
  p.isAvailable && p.capability.serves model

/-- The URL of the peer's model server. -/
def endpointUrl (p : Peer) : String := p.address.baseUrl

end Peer

end InferenceFleet
