import InferenceFleet.Monitor.ErrorWindow
import InferenceFleet.Peer.Document
import InferenceFleet.Routing.Failure
import InferenceFleet.Routing.Statistics

/-!
# The status of a fleet

What a router tells of itself, of the peers it is shown and of the monitor beside it, and the
document form of that.
-/

namespace InferenceFleet

/-- What a router tells of itself and its fleet. -/
structure FleetStatus where
  mode : RouterMode
  peers : List Peer
  statistics : Statistics
  /-- How long the statistics were counted. -/
  uptime : Duration
  cyclesCompleted : UInt64
  recentErrors : List ProbeFailure

namespace Statistics

/-- The document of a table of counts. -/
def countsTree (counts : TextMap UInt64) : Tree :=
  .record (counts.entries.map fun b => (b.1, .integer b.2.toNat))

/-- The document of counts that were kept for some time. -/
def toTree (s : Statistics) (uptime : Duration) : Tree :=
  .record
    [("selections", .integer s.selections.toNat),
      ("first_tier_hits", .integer s.firstTierHits.toNat),
      ("later_tier_hits", .integer s.laterTierHits.toNat),
      ("exhaustions", .integer s.exhaustions.toNat),
      ("system_errors", .integer s.systemErrors.toNat), ("fallbacks", .integer s.fallbacks.toNat),
      ("per_model", countsTree s.perModel), ("per_peer", countsTree s.perPeer),
      ("uptime_secs", .integer (uptime / Duration.ofSeconds 1 : Nat))]

end Statistics

namespace ProbeFailure

/-- The document of a remembered failure. -/
def toTree (f : ProbeFailure) : Tree :=
  .record
    [("peer_id", .text f.peerId), ("addr", .text f.address), ("class", f.failureClass.toTree),
      ("message", .text f.message), ("at", .text f.time.text)]

end ProbeFailure

namespace FleetStatus

/-- The peers that are available. -/
def available (s : FleetStatus) : List Peer := s.peers.filter Peer.isAvailable

/-- The document of a peer in a status. -/
def peerTree (p : Peer) : Tree :=
  .record
    [("id", .text p.id), ("endpoint_url", .text p.endpointUrl), ("available", .bool p.isAvailable),
      ("models", .ofTexts p.capability.models.toList), ("load_avg", .number p.capability.load),
      ("last_seen", .text p.capability.lastSeen.text)]

/-- The document of a status. -/
def toTree (s : FleetStatus) : Tree :=
  .record
    [("mode", .text s.mode.name), ("peers_total", .integer s.peers.length),
      ("peers_available", .integer s.available.length), ("peers", .list (s.peers.map peerTree)),
      ("stats", s.statistics.toTree s.uptime),
      ("cycles_completed", .integer s.cyclesCompleted.toNat),
      ("recent_errors", .list (s.recentErrors.map ProbeFailure.toTree))]

end FleetStatus

end InferenceFleet
