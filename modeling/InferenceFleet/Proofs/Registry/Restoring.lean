import InferenceFleet.Proofs.Registry.PeerFile
import InferenceFleet.Routing.Router

/-!
# What a file restores

A registry that was loaded anew from the file of another one has the remote peers of that one, and
not the entry of this node. So the two route alike what leaves this node out: such a request looks
at remote peers only (`Router.route_remote`).
-/

namespace InferenceFleet

/-- A request that leaves this node out looks at remote peers only. -/
theorem Request.firstTier?_remote {r : Request} (hexcluded : r.excluded.contains localId = true)
    (peers : List Peer) (tier : Nat) (preferences : List String) :
    r.firstTier? (peers.filter fun p => !p.isLocal) tier preferences =
      r.firstTier? peers tier preferences := by
  have hremote : ∀ model p, r.admits model p = true → (!p.isLocal) = true := by
    intro model p hadmits
    cases hlocal : p.isLocal with
    | false => rfl
    | true =>
        have hid : p.id = localId := by simpa [Peer.isLocal] using hlocal
        simp [admits, hid, hexcluded] at hadmits
  induction preferences generalizing tier with
  | nil => rfl
  | cons model rest ih =>
      have hfilter : (peers.filter fun p => !p.isLocal).filter (r.admits model) =
          peers.filter (r.admits model) := by
        rw [List.filter_filter]
        refine List.filter_congr fun p _ => ?_
        cases hadmits : r.admits model p with
        | false => rfl
        | true => simp [hremote model p hadmits]
      simp only [firstTier?, hfilter, ih]

theorem Router.route_remote {r : Request} (hexcluded : r.excluded.contains localId = true)
    (router : Router) (peers : List Peer) :
    router.route (peers.filter fun p => !p.isLocal) r = router.route peers r := by
  have hselect : select router.policy r (peers.filter fun p => !p.isLocal) =
      select router.policy r peers := by
    simp only [select, Request.firstTier?_remote hexcluded]
  rw [route, route, hselect]

namespace Registry

/-- A file holds the remote peers of a registry: an empty registry that loads it has them all as
they are, and no others, and routes every request that leaves this node out in the same way. -/
def IsRestoredFrom (r : Registry) (fs : FileSystem) (path : String) : Prop :=
  ∃ loaded report, empty.load fs path = .ok (loaded, report) ∧ report.skipped = [] ∧
    (∀ id p, loaded.get? id = some p ↔ id ≠ localId ∧ r.get? id = some p) ∧
    ∀ (router : Router) (request : Request), request.excluded.contains localId = true →
      router.route loaded.snapshot request = router.route r.snapshot request

/-- Registries with the same remote peers route alike past this node. -/
theorem AgreesRemotely.route_eq {r r' : Registry} (h : r.AgreesRemotely r') (hr : r.IsConsistent)
    (hr' : r'.IsConsistent) {request : Request}
    (hexcluded : request.excluded.contains localId = true) (router : Router) :
    router.route r.snapshot request = router.route r'.snapshot request := by
  rw [← Router.route_remote hexcluded, ← Router.route_remote hexcluded router r'.snapshot]
  exact congrArg (router.route · request) (h.remotePeers_eq hr hr')

/-- A registry that holds nothing but what a consistent one holds is consistent. -/
theorem IsConsistent.mono {r r' : Registry} (h : r.IsConsistent)
    (hsub : ∀ id p, r'.get? id = some p → r.get? id = some p) : r'.IsConsistent where
  id_eq hget := h.id_eq (hsub _ _ hget)
  id_eq_of_host hget hget' := h.id_eq_of_host (hsub _ _ hget) (hsub _ _ hget')

/-- Saving fails with replacing the text of the file. -/
theorem exists_of_save_eq_error {r : Registry} {faults : FileSystem.Faults} {fs fs' : FileSystem}
    {path : String} {e : RegistryError} (h : r.save faults fs path = (.error e, fs')) :
    ∃ e', fs.replaceText faults (.ofText path) r.fileText = (some e', fs') := by
  unfold save at h
  split at h
  · next e' fs₁ hreplace =>
      obtain rfl : fs₁ = fs' := congrArg Prod.snd h
      exact ⟨e', hreplace⟩
  · cases h

/-- What is saved is restored, if all remote peers are sound and can be read back. -/
theorem isRestoredFrom_of_save {r : Registry} (hr : r.IsConsistent)
    (hpeers : ∀ p ∈ r.remotePeers, p.IsRestorable ∧ p.IsSound) {faults : FileSystem.Faults}
    {fs fs' : FileSystem} {path : String} {n : Nat}
    (hsave : r.save faults fs path = (.ok n, fs')) : r.IsRestoredFrom fs' path := by
  obtain ⟨loaded, report, hload, hget, -, hskipped⟩ :=
    load_of_save hr (fun p hp => (hpeers p hp).1) hsave
  have hsame : ∀ id p, loaded.get? id = some p ↔ id ≠ localId ∧ r.get? id = some p := by
    intro id p
    rw [hget]
    refine and_congr_right fun hremote => and_iff_left_of_imp fun hthere => ?_
    obtain rfl := hr.id_eq hthere
    exact (hpeers p (hr.mem_remotePeers_iff.2 ⟨hremote, hthere⟩)).2
  have hconsistent : loaded.IsConsistent := hr.mono fun id p hthere => ((hsame id p).1 hthere).2
  have hagrees : loaded.AgreesRemotely r := by
    intro id hremote
    apply Option.ext
    intro p
    rw [hsame]
    exact and_iff_right hremote
  refine ⟨loaded, report, hload, ?_, hsame, fun router request hexcluded =>
    hagrees.route_eq hconsistent hr hexcluded router⟩
  refine List.eq_nil_of_length_eq_zero (hskipped.trans (List.countP_eq_zero.2 fun p hp => ?_))
  simp [(hpeers p hp).2]

end Registry

end InferenceFleet
