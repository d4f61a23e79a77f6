import InferenceFleet.Proofs.Interleaving.Landing
import InferenceFleet.Proofs.Interleaving.Regular

/-!
# What is saved is restored

After any traffic the remote peers of a fleet can be saved and loaded again: those that are sound
come back as they were, and the others are skipped. None has to be skipped where all of them are
sound, as they are in traffic that probes over HTTP and has no unsound seed.
-/

namespace InferenceFleet

namespace Traffic

/-- Saving the registry of a fleet, whose remote peers are named as peers are and have numbers and
times that are read back, and loading the file into an empty registry succeeds with exactly those
remote peers that have a sound address and a sound capability, each as it was, and the report counts
these as loaded and the other remote peers as skipped. The entry of this node has no part in what is
saved. If peers came in by calls, with capabilities probed over HTTP and seeds at sound addresses
only, nothing is skipped. -/
theorem saved_peers_are_restored (f : Fleet) (moves : List Move) (faults : FileSystem.Faults)
    (fs fs' : FileSystem) (path : String) (n : Nat)
    (hnamed : ∀ p ∈ ((start f).run moves).registry.remotePeers, p.IsNamed)
    (hback : ∀ p ∈ ((start f).run moves).registry.remotePeers, p.capability.IsReadBack)
    (hsave : ((start f).run moves).registry.save faults fs path = (.ok n, fs')) :
    let r := ((start f).run moves).registry
    ∃ loaded report, Registry.empty.load fs' path = .ok (loaded, report) ∧
      (∀ id p, loaded.get? id = some p ↔
        id ≠ localId ∧ r.get? id = some p ∧ p.address.IsSound ∧ p.capability.IsSound) ∧
      report.loaded = r.remotePeers.countP (fun p => p.IsSound) ∧
      report.skipped.length = r.remotePeers.countP (fun p => ¬ p.IsSound) ∧
      n = r.remotePeers.length ∧
      (∀ r' : Registry, r'.IsConsistent → r'.AgreesRemotely r →
        r'.save faults fs path = (.ok n, fs')) ∧
      ((∀ m ∈ moves, m.IsProbed) → (∀ m ∈ moves, m.HasSoundSeeds) → report.skipped = []) := by
  intro r
  have hconsistent : r.IsConsistent := isConsistent_run f moves
  obtain ⟨loaded, report, hload, hget, hloaded, hskipped⟩ :=
    Registry.load_of_save hconsistent (fun p hp => ⟨hnamed p hp, hback p hp⟩) hsave
  refine ⟨loaded, report, hload, hget, hloaded, hskipped, (Registry.readText_of_save hsave).1,
    fun r' hr' hagrees => (hagrees.save_eq hr' hconsistent faults fs path).trans hsave,
    fun hmoves hseeds => ?_⟩
  have hregular : ∀ p ∈ r.remotePeers, p.IsSound := by
    intro p hp
    obtain ⟨hremote, hthere⟩ := hconsistent.mem_remotePeers_iff.1 hp
    exact ((isRegular_run f hmoves hseeds).registry p.id p hremote hthere).isSound
  refine List.eq_nil_of_length_eq_zero (hskipped.trans (List.countP_eq_zero.2 fun p hp => ?_))
  simp [hregular p hp]

/-- A time at which peers answer. -/
def noon : Timestamp := ⟨1760000000, 500000000⟩

/-- Every request is answered by one capability document. -/
def answering : Transport := fun _ =>
  some (0, .answered ⟨200⟩ (.ok ("\x7b\"cpu_cores\": 8, \"memory_gb\": 0.5, \"load_avg\": 12.5, "
    ++ "\"models\": [\"mistral:7b\"]\x7d").toUTF8))

/-- What the document tells of a node. -/
def answered : Capability :=
  { cpuCores := 8, memoryGb := ⟨0x3fe0000000000000⟩, gpuMemoryGb := .zero,
    models := .ofList ["mistral:7b"], load := ⟨0x4029000000000000⟩, available := true,
    lastSeen := noon }

/-- What a probe of an address brings. -/
def broughtFrom (address : Address) : Outcome := (Exchange.probe answering 1 address noon).2

/-- The address of the peer that is added. -/
def addedAddress : Address := ⟨"fd00::1", defaultPort⟩

/-- A peer is added and answers, this node is entered, and a cycle follows, in which the peer does
not answer any more but a seed does. -/
def joinedBy (seed : Address) : List Move :=
  [.add addedAddress (some " gpu "), .proceed 0 (.outcome (broughtFrom addedAddress)),
    .access (.registerLocal ⟨"127.0.0.1", defaultPort⟩ .unseen),
    .cycle { MonitorConfig.builtin with seeds := [seed] }, .proceed 1 .nothing,
    .proceed 1 (.outcomes
      [(⟨"gpu", addedAddress⟩, .error ⟨addedAddress.text, .network "connection refused"⟩)]),
    .proceed 1 .nothing, .proceed 1 .nothing, .proceed 1 .nothing, .proceed 1 .nothing,
    .proceed 1 (.outcomes [(⟨seed.text, seed⟩, broughtFrom seed)]), .proceed 1 .nothing]

/-- The two peers after that. -/
def joined (seed : Address) : List Peer :=
  [⟨seed.host, seed, answered⟩, ⟨"gpu", addedAddress, { answered with available := false }⟩]

theorem probedOverHttp_of_broughtFrom {address : Address} {c : Capability}
    (h : broughtFrom address = .ok c) : ProbedOverHttp c :=
  ⟨answering, 1, address, noon, h⟩

theorem isProbed_joinedBy (seed : Address) : ∀ m ∈ joinedBy seed, m.IsProbed := by
  simp only [joinedBy, List.forall_mem_cons, Move.IsProbed]
  refine ⟨trivial, fun c => probedOverHttp_of_broughtFrom, trivial, trivial, trivial,
    ⟨nofun, List.forall_mem_nil _⟩, trivial, trivial, trivial, trivial,
    ⟨fun c => probedOverHttp_of_broughtFrom, List.forall_mem_nil _⟩, trivial, List.forall_mem_nil _⟩

theorem hasSoundSeeds_joinedBy {seed : Address} (h : seed.IsSound) :
    ∀ m ∈ joinedBy seed, m.HasSoundSeeds := by
  simp only [joinedBy, List.forall_mem_cons, Move.HasSoundSeeds]
  exact ⟨trivial, trivial, trivial, ⟨h, List.forall_mem_nil _⟩, trivial, trivial, trivial, trivial,
    trivial, trivial, trivial, trivial, List.forall_mem_nil _⟩

theorem isReadBack_answered : answered.IsReadBack where
  memoryGb _ := Json.readsBack_of_number? (by decide +kernel)
  gpuMemoryGb _ := Json.readsBack_of_number? (by decide +kernel)
  load _ := Json.readsBack_of_number? (by decide +kernel)
  lastSeen := by decide +kernel

theorem isNamed_joined (seed : Address) : ∀ p ∈ joined seed, p.IsNamed := by
  refine List.forall_mem_cons.2 ⟨⟨none, rfl⟩, List.forall_mem_singleton.2 ⟨some " gpu ", ?_⟩⟩
  decide +kernel

theorem isReadBack_joined (seed : Address) : ∀ p ∈ joined seed, p.capability.IsReadBack := by
  obtain ⟨hmemory, hgpu, hload, hseen⟩ := isReadBack_answered
  exact List.forall_mem_cons.2 ⟨isReadBack_answered,
    List.forall_mem_singleton.2 ⟨hmemory, hgpu, hload, hseen⟩⟩

/-- A seed whose host can stand in a URL. -/
def soundSeed : Address := ⟨"fd00::2", defaultPort⟩

/-- A seed whose host makes a URL of another host and a longer path; it is answered all the same. -/
def slashedSeed : Address := ⟨"[::1]/x", defaultPort⟩

theorem saved_peers_are_restored_joinedBy :
    let r := ((start quiet).run (joinedBy soundSeed)).registry
    let saved := (r.save .none quiet.files "peers.json").2
    (∀ p ∈ r.remotePeers, p.IsNamed) ∧ (∀ p ∈ r.remotePeers, p.capability.IsReadBack) ∧
    r.save .none quiet.files "peers.json" = (.ok 2, saved) ∧
    (∀ m ∈ joinedBy soundSeed, m.IsProbed) ∧ (∀ m ∈ joinedBy soundSeed, m.HasSoundSeeds) ∧
    ∃ loaded report, Registry.empty.load saved "peers.json" = .ok (loaded, report) ∧
      (∀ id p, loaded.get? id = some p ↔
        id ≠ localId ∧ r.get? id = some p ∧ p.address.IsSound ∧ p.capability.IsSound) ∧
      report.loaded = r.remotePeers.countP (fun p => p.IsSound) ∧
      report.skipped.length = r.remotePeers.countP (fun p => ¬ p.IsSound) ∧
      2 = r.remotePeers.length ∧
      (∀ r' : Registry, r'.IsConsistent → r'.AgreesRemotely r →
        r'.save .none quiet.files "peers.json" = (.ok 2, saved)) ∧
      report.skipped = [] := by
  intro r saved
  have hpeers : r.remotePeers = joined soundSeed := by decide +kernel
  have hnamed : ∀ p ∈ r.remotePeers, p.IsNamed := hpeers ▸ isNamed_joined soundSeed
  have hback : ∀ p ∈ r.remotePeers, p.capability.IsReadBack :=
    hpeers ▸ isReadBack_joined soundSeed
  have hcount : (r.save .none quiet.files "peers.json").1 = .ok 2 := by decide +kernel
  have hsave : r.save .none quiet.files "peers.json" = (.ok 2, saved) := Prod.ext hcount rfl
  have hprobed := isProbed_joinedBy soundSeed
  have hseeds : ∀ m ∈ joinedBy soundSeed, m.HasSoundSeeds := hasSoundSeeds_joinedBy (by decide)
  obtain ⟨loaded, report, hload, hget, hloaded, hskipped, hn, hlocal, hnone⟩ :=
    saved_peers_are_restored quiet (joinedBy soundSeed) .none quiet.files saved "peers.json" 2
      hnamed hback hsave
  exact ⟨hnamed, hback, hsave, hprobed, hseeds, loaded, report, hload, hget, hloaded, hskipped, hn,
    hlocal, hnone hprobed hseeds⟩

/-- That all capabilities were probed over HTTP is not enough for nothing to be skipped: a seed at
an unsound address is taken in once it answers, and skipped when the file is loaded. -/
theorem answering_seed_is_skipped :
    ¬ ∀ (f : Fleet) (moves : List Move) (faults : FileSystem.Faults) (fs fs' : FileSystem)
        (path : String) (n : Nat),
      (∀ p ∈ ((start f).run moves).registry.remotePeers, p.IsNamed) →
      (∀ p ∈ ((start f).run moves).registry.remotePeers, p.capability.IsReadBack) →
      (∀ m ∈ moves, m.IsProbed) →
      ((start f).run moves).registry.save faults fs path = (.ok n, fs') →
      ∃ loaded report, Registry.empty.load fs' path = .ok (loaded, report) ∧
        report.skipped = [] := by
  intro hall
  let r := ((start quiet).run (joinedBy slashedSeed)).registry
  have hpeers : r.remotePeers = joined slashedSeed := by decide +kernel
  have hnamed : ∀ p ∈ r.remotePeers, p.IsNamed := hpeers ▸ isNamed_joined slashedSeed
  have hback : ∀ p ∈ r.remotePeers, p.capability.IsReadBack :=
    hpeers ▸ isReadBack_joined slashedSeed
  have hcount : (r.save .none quiet.files "peers.json").1 = .ok 2 := by decide +kernel
  have hsave : r.save .none quiet.files "peers.json" =
      (.ok 2, (r.save .none quiet.files "peers.json").2) := Prod.ext hcount rfl
  obtain ⟨loaded, report, hload, hnone⟩ := hall quiet (joinedBy slashedSeed) .none quiet.files _
    "peers.json" 2 hnamed hback (isProbed_joinedBy slashedSeed) hsave
  obtain ⟨loaded', report', hload', -, -, hskipped⟩ := Registry.load_of_save
    (isConsistent_run quiet (joinedBy slashedSeed)) (fun p hp => ⟨hnamed p hp, hback p hp⟩) hsave
  rw [hload] at hload'
  obtain ⟨rfl, rfl⟩ := Prod.mk.inj (Except.ok.inj hload')
  have hone : (joined slashedSeed).countP (fun p => ¬ p.IsSound) = 1 := by decide +kernel
  rw [hnone, show ((start quiet).run (joinedBy slashedSeed)).registry.remotePeers =
    joined slashedSeed from hpeers, hone] at hskipped
  cases hskipped

end Traffic

end InferenceFleet
