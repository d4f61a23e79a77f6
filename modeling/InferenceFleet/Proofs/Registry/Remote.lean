import InferenceFleet.Monitor.Cycle
import InferenceFleet.Proofs.Registry.Consistency
import Mathlib.Data.List.Nodup

/-!
# Remote peers

The remote peers of a registry are all but the entry of this node. In a consistent registry they are
known by their identifiers, so entering this node leaves the list of them as it is, and a cycle
probes none of them twice.
-/

namespace InferenceFleet

namespace Registry

/-- Two registries that differ in the entry of this node at most. -/
def AgreesRemotely (r r' : Registry) : Prop := ∀ id, id ≠ localId → r.get? id = r'.get? id

theorem IsConsistent.mem_remotePeers_iff {r : Registry} (h : r.IsConsistent) {p : Peer} :
    p ∈ r.remotePeers ↔ p.id ≠ localId ∧ r.get? p.id = some p := by
  rw [remotePeers, List.mem_filter, h.mem_snapshot_iff]
  simp [Peer.isLocal, and_comm]

/-- The remote peers of a consistent registry, by their keys. -/
theorem IsConsistent.remotePeers_eq {r : Registry} (h : r.IsConsistent) :
    r.remotePeers = (r.peers.entries.filter fun e => e.1 ≠ localId).map Prod.snd := by
  rw [remotePeers, snapshot, TextMap.values, List.filter_map]
  refine congrArg (List.map Prod.snd) (List.filter_congr fun e he => ?_)
  have hid : e.2.id = e.1 := h.id_eq (TextMap.mem_entries_iff.1 he)
  rw [← hid]
  simp only [Function.comp, Peer.isLocal, ne_eq, decide_not]
  rfl

/-- The entry of this node has no part in the remote peers. -/
theorem AgreesRemotely.remotePeers_eq {r r' : Registry} (h : r.AgreesRemotely r')
    (hr : r.IsConsistent) (hr' : r'.IsConsistent) : r.remotePeers = r'.remotePeers := by
  rw [hr.remotePeers_eq, hr'.remotePeers_eq]
  refine congrArg (List.map Prod.snd) (TextMap.eq_of_mem_iff (r.peers.ascending.filter _)
    (r'.peers.ascending.filter _) fun e => ?_)
  have hsame : ∀ id p, id ≠ localId → ((id, p) ∈ r.peers.entries ↔ (id, p) ∈ r'.peers.entries) := by
    intro id p hid
    have hget : r.peers.get? id = r'.peers.get? id := h id hid
    rw [TextMap.mem_entries_iff, TextMap.mem_entries_iff, hget]
  obtain ⟨id, p⟩ := e
  simp only [List.mem_filter, ne_eq, decide_not, Bool.not_eq_true', decide_eq_false_iff_not]
  exact and_congr_left fun hid => hsame id p hid

theorem IsConsistent.targets_ascending {f : Fleet} (h : f.registry.IsConsistent) :
    (Cycle.targets f).Pairwise fun a b => a.id < b.id :=
  List.pairwise_map.2 (h.snapshot_ascending.filter _)

theorem IsConsistent.nodup_ids_targets {f : Fleet} (h : f.registry.IsConsistent) :
    ((Cycle.targets f).map Target.id).Nodup := by
  refine List.pairwise_map.2 (h.targets_ascending.imp fun {a b} hlt heq => ?_)
  rw [heq] at hlt
  exact String.lt_irrefl _ hlt

/-- The targets read off a consistent registry are all different. -/
theorem IsConsistent.nodup_targets {f : Fleet} (h : f.registry.IsConsistent) :
    (Cycle.targets f).Nodup := h.nodup_ids_targets.of_map _

end Registry

end InferenceFleet
