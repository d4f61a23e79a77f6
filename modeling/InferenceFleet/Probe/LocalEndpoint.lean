import InferenceFleet.Peer.Address
import InferenceFleet.Time.Duration

/-!
# The endpoint of this node

Where this node's own model server is found, and how long it is waited for.
-/

namespace InferenceFleet

/-- The endpoint of this node's model server. -/
structure LocalEndpoint where
  host : String
  port : UInt16
  timeout : Duration
  deriving DecidableEq

namespace LocalEndpoint

/-- The endpoint unless something else is configured. -/
def builtin : LocalEndpoint := ⟨"127.0.0.1", defaultPort, .ofSeconds 5⟩

/-- The address of the endpoint. -/
def address (e : LocalEndpoint) : Address := ⟨e.host, e.port⟩

end LocalEndpoint

end InferenceFleet
