import InferenceFleet.Peer.Basic
import InferenceFleet.Registry.Error
import InferenceFleet.Text.LowerCase
import InferenceFleet.Time.Duration

/-!
# The registry

The peers of the fleet by identifier. Hosts are compared without regard to the case of ASCII
letters, and a peer is admitted only if neither its host nor its identifier is taken and its
identifier is not the reserved one; that one belongs to the entry of this node, which has an
operation of its own. A probe result replaces what is known of a peer, a failed probe only marks
it unavailable, and the time a peer was last seen never moves back.
-/

namespace InferenceFleet

/-- The peers of the fleet, by identifier. -/
structure Registry where
  peers : TextMap Peer

namespace Registry

/-- No peers. -/
def empty : Registry := ⟨.empty⟩

instance : EmptyCollection Registry := ⟨empty⟩

instance : Inhabited Registry := ⟨empty⟩

/-- The peer stored under an identifier. -/
def get? (r : Registry) (id : String) : Option Peer := r.peers.get? id

/-- Every peer, by ascending identifier. -/
def snapshot (r : Registry) : List Peer := r.peers.values

/-- The number of peers. -/
def size (r : Registry) : Nat := r.peers.size

/-- Whether there are no peers. -/
def isEmpty (r : Registry) : Bool := r.peers.isEmpty

/-- The peer at a host; the one with the least identifier if there are several. -/
def atHost? (r : Registry) (host : String) : Option Peer :=
  r.snapshot.find? fun p => Text.sameUpToAsciiCase p.address.host host

/-- Whether a peer is at a host. -/
def containsHost (r : Registry) (host : String) : Bool :=
  r.snapshot.any fun p => Text.sameUpToAsciiCase p.address.host host

/-- The identifier of the peer at a host. -/
def idAtHost? (r : Registry) (host : String) : Option String := (r.atHost? host).map Peer.id

/-- A one-line summary, which also names the deadline of admission probes. -/
def summary (r : Registry) (deadline : Duration) : String :=
  "PeerRegistry \x7b peers: " ++ Text.numeral r.size ++ ", probe_timeout: "
    ++ Duration.text deadline ++ ", .. \x7d"

/-- Why a candidate is not admitted: its identifier is reserved, its host is taken, or its
identifier is taken. The first of these that holds is given. -/
def refusal? (r : Registry) (candidate : Peer) : Option RegistryError :=
  if candidate.id = localId then some (.reservedId candidate.id)
  else
    match r.atHost? candidate.address.host with
    | some existing => some (.duplicateHost candidate.address.host existing.id)
    | none =>
        if r.peers.contains candidate.id then some (.duplicateId candidate.id) else none

/-- Puts a peer under its identifier. -/
def store (r : Registry) (p : Peer) : Registry := ⟨r.peers.insert p.id p⟩

/-- Admits a peer, unless there is a reason not to. -/
def enroll (r : Registry) (p : Peer) : Except RegistryError Registry :=
  match r.refusal? p with
  | some e => .error e
  | none => .ok (r.store p)

/-- The peer that a call to add one is about, before it was probed: its address has to be sound,
and there must be no reason yet not to enroll it. -/
def candidate (r : Registry) (address : Address) (name : Option String) :
    Except RegistryError Peer :=
  match address.check with
  | .error e => .error (.ofAddress e)
  | .ok () =>
      let peer := Peer.named address name .unseen
      match r.refusal? peer with
      | some e => .error e
      | none => .ok peer

/-- Admits a candidate with what its probe brought; a failed probe brought nothing. -/
def enrollProbed (r : Registry) (candidate : Peer) (answer : Option Capability) :
    Except RegistryError Registry :=
  r.enroll { candidate with capability := answer.getD .unseen }

/-- Enters what is known of this node. If it is unavailable, what was known before stays. -/
def registerLocal (r : Registry) (address : Address) (c : Capability) : Registry :=
  match r.get? localId with
  | none => ⟨r.peers.insert localId ⟨localId, address, c⟩⟩
  | some existing =>
      if c.available then
        let lastSeen := existing.capability.lastSeen.later c.lastSeen
        ⟨r.peers.insert localId
          { existing with address := address, capability := { c with lastSeen := lastSeen } }⟩
      else
        ⟨r.peers.insert localId
          { existing with capability := { existing.capability with available := false } }⟩

/-- What is known of a peer after a successful probe at some time. -/
def refreshed (old new : Capability) (now : Timestamp) : Capability :=
  { new with available := true, lastSeen := (old.lastSeen.later new.lastSeen).later now }

/-- Replaces what is known of a peer after a successful probe. -/
def update (r : Registry) (id : String) (c : Capability) (now : Timestamp) :
    Except RegistryError Registry :=
  match r.get? id with
  | none => .error (.notFound id)
  | some p =>
      .ok ⟨r.peers.insert id { p with capability := refreshed p.capability c now }⟩

/-- Marks a peer as unavailable and keeps all else. -/
def markUnavailable (r : Registry) (id : String) : Except RegistryError Registry :=
  match r.get? id with
  | none => .error (.notFound id)
  | some p =>
      .ok ⟨r.peers.insert id { p with capability := { p.capability with available := false } }⟩

/-- Removes a peer. -/
def remove (r : Registry) (id : String) : Except RegistryError (Peer × Registry) :=
  match r.get? id with
  | none => .error (.notFound id)
  | some p => .ok (p, ⟨r.peers.erase id⟩)

end Registry

end InferenceFleet
