import InferenceFleet.Program.Entry
import InferenceFleet.Proofs.Interleaving.Loading
import InferenceFleet.Proofs.Interleaving.Restored
import InferenceFleet.Proofs.Probe.Verdict
import InferenceFleet.Proofs.Registry.Keeping

/-!
# Commands edit the peer file

A command that adds or removes a peer loads the peer file, changes what it loaded, and saves the
whole of it (`Program.Edits`). What a file restores can be written to a file and restored again as
it is (`Registry.IsKept`), however much of the file was passed over in loading it, and the change
keeps that so. So the file then has the same peers but for the one that was added or removed. Where
the command fails, no file is touched, unless it was saving that failed; then nothing at the path of
the peer file is lost.
-/

namespace InferenceFleet

namespace Registry

/-- A registry as a file restores it: consistent, without this node, and of regular peers. -/
structure IsKept (r : Registry) : Prop where
  consistent : r.IsConsistent
  remote : ∀ id p, r.get? id = some p → id ≠ localId
  regular : r.IsRegular

theorem isKept_empty : empty.IsKept where
  consistent := isConsistent_empty
  remote _ _ hget := by cases hget
  regular _ _ _ hget := by cases hget

theorem IsKept.store {r : Registry} (h : r.IsKept) {p : Peer} (hadmitted : r.refusal? p = none)
    (hp : p.IsRegular) : (r.store p).IsKept := by
  have hremote : p.id ≠ localId := (refusal?_eq_none_iff.1 hadmitted).1
  have hperform := perform_enroll hadmitted
  refine ⟨hperform ▸ h.consistent.perform _, fun id q hget => ?_, hperform ▸ h.regular.perform hp⟩
  rw [get?_store] at hget
  split at hget
  · next hid => exact hid ▸ hremote
  · exact h.remote id q hget

theorem IsKept.mono {r r' : Registry} (h : r.IsKept)
    (hsub : ∀ id p, r'.get? id = some p → r.get? id = some p) : r'.IsKept where
  consistent := h.consistent.mono hsub
  remote id p hget := h.remote id p (hsub id p hget)
  regular id p hremote hget := h.regular id p hremote (hsub id p hget)

theorem IsKept.loadEntries {r : Registry} (h : r.IsKept) (report : LoadReport) (index : Nat)
    (entries : List Tree) : (r.loadEntries report index entries).1.IsKept := by
  induction entries generalizing r report index with
  | nil => exact h
  | cons entry rest ih =>
      unfold Registry.loadEntries
      split
      · next r' hload =>
          unfold loadEntry at hload
          split at hload
          · cases hload
          · next p hp =>
              obtain ⟨hadmitted, rfl⟩ := enroll_eq_ok_iff.1 (Exchange.mapError_eq_ok_iff.1 hload)
              exact ih (h.store hadmitted (isRegular_of_peerOfEntry hp)) _ _
      · exact ih h _ _

/-- Whatever is in a file, what it restores is a registry that can be kept. -/
theorem isKept_of_load {fs : FileSystem} {path : String} {r : Registry} {report : LoadReport}
    (h : empty.load fs path = .ok (r, report)) : r.IsKept := by
  unfold load at h
  split at h
  · cases h
  · cases h
    exact isKept_empty
  · split at h
    · cases h
    · next entries _ =>
        have hloaded := isKept_empty.loadEntries .zero 0 entries
        rw [Except.ok.inj h] at hloaded
        exact hloaded

/-- What can be kept is restored as it was, if its capabilities can be read back. -/
theorem IsKept.load_of_save {r : Registry} (h : r.IsKept)
    (hback : ∀ id p, r.get? id = some p → p.capability.IsReadBack) {faults : FileSystem.Faults}
    {fs fs' : FileSystem} {path : String} {n : Nat}
    (hsave : r.save faults fs path = (.ok n, fs')) :
    ∃ loaded report, empty.load fs' path = .ok (loaded, report) ∧
      ∀ id p, loaded.get? id = some p ↔ r.get? id = some p := by
  have hpeers : ∀ p ∈ r.remotePeers, p.IsRestorable ∧ p.IsSound := by
    intro p hp
    obtain ⟨hremote, hget⟩ := h.consistent.mem_remotePeers_iff.1 hp
    obtain ⟨hnamed, hsound⟩ := h.regular p.id p hremote hget
    exact ⟨⟨hnamed, hback p.id p hget⟩, hsound⟩
  obtain ⟨loaded, report, hload, -, hsame, -⟩ := isRestoredFrom_of_save h.consistent hpeers hsave
  refine ⟨loaded, report, hload, fun id p => (hsame id p).trans ?_⟩
  exact and_iff_right_of_imp fun hget => h.remote id p hget

end Registry

namespace Admission

/-- A candidate that is not refused is stored with what its probe brought. -/
theorem finish_of_admitted {w : World} {a : Admission}
    (hadmitted : w.fleet.registry.refusal? a.candidate = none) :
    a.finish w =
      ({ w with
        fleet :=
          { w.fleet with
            registry := w.fleet.registry.store
              { a.candidate with capability := a.outcome.toOption.getD .unseen } } },
        .ok a.candidate.id) := by
  have henroll : w.fleet.registry.enrollProbed a.candidate a.outcome.toOption = .ok
      (w.fleet.registry.store
        { a.candidate with capability := a.outcome.toOption.getD .unseen }) :=
    Registry.enroll_eq_ok_iff.2 ⟨hadmitted, rfl⟩
  rw [finish, henroll]

/-- Adding a peer while nothing else happens fails, or stores the peer with what its probe
brought. -/
theorem complete_cases (deadline : Duration) (w : World) (address : Address)
    (name : Option String) :
    let outcome := (w.network.remote address deadline w.fleet.clock.now.wall).result
    let p := Peer.named address name (outcome.toOption.getD .unseen)
    (∃ w' e, complete deadline w address name = (w', .error e)) ∨
      address.IsSound ∧ w.fleet.registry.refusal? p = none ∧
        ∃ w', complete deadline w address name = (w', .ok p.id) ∧
          w'.fleet = { w.fleet with registry := w.fleet.registry.store p } := by
  intro outcome p
  unfold complete start
  cases hcandidate : w.fleet.registry.candidate address name with
  | error e => exact .inl ⟨w, e, rfl⟩
  | ok candidate =>
      obtain ⟨hsound, hadmitted, rfl⟩ := Registry.candidate_eq_ok_iff.1 hcandidate
      exact .inr ⟨hsound, hadmitted, _, finish_of_admitted hadmitted, rfl⟩

end Admission

namespace Program

/-- A command that edits the peer file fails and leaves all files as they are, or it loads the file,
edits what it restores and saves that. -/
inductive Edits (h : Host) (path : String) (edit : Registry → Registry → Prop) : Completion → Prop
  | refused {e : CommandError} (hsaving : ∀ cause, e ≠ .saving path cause) :
      Edits h path edit (.failed e h.files)
  | saved {old new : Registry} {report : LoadReport} {n : Nat} {fs : FileSystem} {t : Tree}
      (hload : Registry.empty.load h.files path = .ok (old, report)) (hedit : edit old new)
      (hsave : new.save h.faults h.files path = (.ok n, fs)) : Edits h path edit (.shown t fs)
  | unsaved {new : Registry} {cause : RegistryError} {fs : FileSystem}
      (hsave : new.save h.faults h.files path = (.error cause, fs)) :
      Edits h path edit (.failed (.saving path cause) fs)

variable {h : Host} {c : FleetConfig} {path : String}

/-- A session is opened by loading the peer file. -/
theorem withSession_cases (hfile : c.peersFile = some path) (use : Session → Completion) :
    (∃ cause, withSession h c use = .failed (.loading path cause) h.files) ∨
      ∃ old report, Registry.empty.load h.files path = .ok (old, report) ∧
        withSession h c use = use (Session.ofRegistry h c old) := by
  unfold withSession Session.start Session.loadPeers
  simp only [hfile]
  cases hload : Registry.empty.load h.files path with
  | error cause => exact .inl ⟨cause, rfl⟩
  | ok loaded => exact .inr ⟨loaded.1, loaded.2, rfl, rfl⟩

/-- A session that holds an edited registry ends by saving it. -/
theorem edits_saved {edit : Registry → Registry → Prop} {old new : Registry} {report : LoadReport}
    (hload : Registry.empty.load h.files path = .ok (old, report)) (hedit : edit old new)
    (s : Session) (hfile : s.config.peersFile = some path)
    (hfleet : s.world.fleet = { (Session.ofRegistry h c old).world.fleet with registry := new })
    (t : Tree) : Edits h path edit (.saved s t) := by
  have hsave : s.world.fleet.registry.save s.world.fleet.faults s.world.fleet.files path =
      new.save h.faults h.files path := by
    rw [hfleet]
    rfl
  unfold Completion.saved Session.save
  simp only [hfile, hsave]
  rcases hresult : new.save h.faults h.files path with ⟨result, fs⟩
  cases result with
  | ok n => exact .saved hload hedit hresult
  | error cause => exact .unsaved hresult

/-- What the probe of an address brings to a command. -/
def probed (h : Host) (c : FleetConfig) (address : Address) : Outcome :=
  ((h.network c.endpoint).remote address c.monitor.probeTimeout h.clock.now.wall).result

/-- The peer that a command adds. -/
def addedPeer (h : Host) (c : FleetConfig) (address : Address) (name : Option String) : Peer :=
  .named address name ((probed h c address).toOption.getD .unseen)

theorem edits_addPeer (hfile : c.peersFile = some path) (address : Address)
    (name : Option String) :
    Edits h path
      (fun old new =>
        address.IsSound ∧ old.refusal? (addedPeer h c address name) = none ∧
          new = old.store (addedPeer h c address name))
      (perform h c (.addPeer address name)) := by
  rcases withSession_cases (h := h) hfile fun s => s.addPeer address name with
    ⟨cause, hfailed⟩ | ⟨old, report, hload, hopened⟩
  · rw [perform, hfailed]
    exact .refused nofun
  · rw [perform, hopened]
    let s := Session.ofRegistry h c old
    rcases Admission.complete_cases s.config.monitor.probeTimeout s.world address name with
      ⟨w, e, hrefused⟩ | ⟨hsound, hadmitted, w, hadded, hfleet⟩
    · have hresult : s.addPeer address name = .failed (.refused e) s.files := by
        rw [Session.addPeer, hrefused]
      rw [hresult]
      exact .refused nofun
    · let p := addedPeer h c address name
      have hadded : Admission.complete s.config.monitor.probeTimeout s.world address name =
          (w, .ok p.id) := hadded
      have hget : ({ s with world := w } : Session).registry.get? p.id = some p := by
        rw [Session.registry, hfleet]
        exact (Registry.get?_store old p p.id).trans (if_pos rfl)
      have hresult : s.addPeer address name = .saved { s with world := w } p.toTree := by
        rw [Session.addPeer, hadded]
        dsimp only
        rw [hget]
      rw [hresult]
      refine edits_saved hload ?_ { s with world := w } hfile hfleet p.toTree
      exact ⟨hsound, hadmitted, rfl⟩

theorem edits_removePeer (hfile : c.peersFile = some path) (id : String) :
    Edits h path (fun old new => (old.get? id).isSome ∧ new = ⟨old.peers.erase id⟩)
      (perform h c (.removePeer id)) := by
  rcases withSession_cases (h := h) hfile fun s => s.removePeer id with
    ⟨cause, hfailed⟩ | ⟨old, report, hload, hopened⟩
  · rw [perform, hfailed]
    exact .refused nofun
  · rw [perform, hopened]
    unfold Session.removePeer Registry.remove
    have hregistry : (Session.ofRegistry h c old).registry = old := rfl
    rw [hregistry]
    cases hget : old.get? id with
    | none => exact .refused nofun
    | some p =>
        let fleet := (Session.ofRegistry h c old).world.fleet
        refine edits_saved hload ?_ ((Session.ofRegistry h c old).withFleet
          { fleet with registry := ⟨old.peers.erase id⟩ }) hfile rfl p.toTree
        exact ⟨by rw [hget]; rfl, rfl⟩

/-! ## What is in the file afterwards -/

variable {edit : Registry → Registry → Prop} {done : Completion}

theorem Edits.of_isOk (hedits : Edits h path edit done) (hdone : done.result.isOk = true) :
    ∃ old report new n, Registry.empty.load h.files path = .ok (old, report) ∧ edit old new ∧
      new.save h.faults h.files path = (.ok n, done.files) := by
  cases hedits with
  | refused hsaving => cases hdone
  | saved hload hedit hsave => exact ⟨_, _, _, _, hload, hedit, hsave⟩
  | unsaved hsave => cases hdone

/-- A command that fails has touched no file at all, or the peer file has the content it had and its
path is spared. -/
theorem Edits.of_not_isOk (hedits : Edits h path edit done) (hdone : done.result.isOk = false) :
    ((∀ cause, done.result ≠ .error (.saving path cause)) → done.files = h.files) ∧
      (∀ content, h.files.read (.ofText path) = .ok content →
        done.files.read (.ofText path) = .ok content) ∧
      (h.files.IsTree → h.files.Spares done.files (.ofText path)) := by
  cases hedits with
  | refused hsaving => exact ⟨fun _ => rfl, fun _ hread => hread, fun _ => .refl h.files _⟩
  | saved hload hedit hsave => cases hdone
  | unsaved hsave =>
      obtain ⟨fault, hreplace⟩ := Registry.exists_of_save_eq_error hsave
      exact ⟨fun hsaving => absurd rfl (hsaving _),
        fun content => (FileSystem.read_of_replaceText_eq_some hreplace content).1,
        fun htree => Registry.spares_of_save htree hsave⟩

/-- A registry has the peers of another one and one more, whose identifier and host nobody used. -/
structure AddsPeer (p : Peer) (old new : Registry) : Prop where
  remote : p.id ≠ localId
  unused : ∀ id q, old.get? id = some q →
    id ≠ p.id ∧ Text.sameUpToAsciiCase q.address.host p.address.host = false
  get?_iff : ∀ id q, new.get? id = some q ↔ old.get? id = some q ∨ id = p.id ∧ q = p

/-- A registry has the peers of another one but for the one under an identifier. -/
structure RemovesPeer (id : String) (old new : Registry) : Prop where
  there : (old.get? id).isSome
  get?_iff : ∀ id' q, new.get? id' = some q ↔ id' ≠ id ∧ old.get? id' = some q

theorem addsPeer_store {r : Registry} {p : Peer} (hadmitted : r.refusal? p = none) :
    AddsPeer p r (r.store p) := by
  obtain ⟨hremote, hhosts, hfree⟩ := Registry.refusal?_eq_none_iff.1 hadmitted
  refine ⟨hremote, fun id q hget => ⟨?_, hhosts id q hget⟩, fun id q => ?_⟩
  · rintro rfl
    cases hfree.symm.trans hget
  · rw [Registry.get?_store]
    by_cases hid : p.id = id
    · subst hid
      simp [hfree, eq_comm]
    · simp [hid, Ne.symm hid]

theorem removesPeer_erase {r : Registry} {id : String} (hthere : (r.get? id).isSome) :
    RemovesPeer id r ⟨r.peers.erase id⟩ := by
  refine ⟨hthere, fun id' q => ?_⟩
  show (r.peers.erase id).get? id' = some q ↔ _
  rw [TextMap.get?_erase]
  by_cases hid : id = id'
  · simp [hid]
  · rw [if_neg hid]
    exact (and_iff_right (Ne.symm hid)).symm

theorem isReadBack_unseen : Capability.unseen.IsReadBack where
  memoryGb _ := Json.readsBack_of_number? (by decide +kernel)
  gpuMemoryGb _ := Json.readsBack_of_number? (by decide +kernel)
  load _ := Json.readsBack_of_number? (by decide +kernel)
  lastSeen := by decide +kernel

/-- What the probe of an added peer brings is sound, if it is made over HTTP. -/
theorem isSound_addedPeer {transport : Transport} {hardware : Exchange.Hardware}
    (hnetwork : h.network = httpNetwork transport hardware) (address : Address)
    (name : Option String) : (addedPeer h c address name).capability.IsSound := by
  show ((probed h c address).toOption.getD .unseen).IsSound
  cases houtcome : probed h c address with
  | error e => exact Capability.isSound_unseen
  | ok answer =>
      rw [probed, hnetwork] at houtcome
      have hprobe := probe_eq_remote_httpNetwork transport hardware c.endpoint address
        c.monitor.probeTimeout h.clock.now.wall
      simp only [houtcome] at hprobe
      exact Exchange.isSound_of_probe (congrArg Prod.snd hprobe)

theorem isReadBack_addedPeer {address : Address}
    (hanswer : ∀ answer, probed h c address = .ok answer → answer.IsReadBack)
    (name : Option String) : (addedPeer h c address name).capability.IsReadBack := by
  show ((probed h c address).toOption.getD .unseen).IsReadBack
  cases houtcome : probed h c address with
  | error e => exact isReadBack_unseen
  | ok answer => exact hanswer answer houtcome

/-- For a configuration with a peer file, on a host whose nodes are probed over HTTP. The peers of
the file are those that loading it into an empty registry admits. If a peer is added, the file then
has the peers it had, as they were, and the new one with what its probe brought, whose identifier
and host none of them had. If a peer is removed, it has those it had but for that one. And where
either command fails, nothing at all was touched, unless it was saving that failed; then the file
has the content it had, and the path is spared, as by any save that fails. -/
theorem commands_edit_the_peer_file (h : Host) (c : FleetConfig) (path : String)
    (transport : Transport) (hardware : Exchange.Hardware) (hfile : c.peersFile = some path)
    (hnetwork : h.network = httpNetwork transport hardware)
    (hback : ∀ old report, Registry.empty.load h.files path = .ok (old, report) →
      ∀ id p, old.get? id = some p → p.capability.IsReadBack) :
    (∀ address name,
      (∀ answer, probed h c address = .ok answer → answer.IsReadBack) →
      (perform h c (.addPeer address name)).result.isOk = true →
      ∃ old report new report', Registry.empty.load h.files path = .ok (old, report) ∧
        Registry.empty.load (perform h c (.addPeer address name)).files path =
          .ok (new, report') ∧
        AddsPeer (addedPeer h c address name) old new) ∧
    (∀ id,
      (perform h c (.removePeer id)).result.isOk = true →
      ∃ old report new report', Registry.empty.load h.files path = .ok (old, report) ∧
        Registry.empty.load (perform h c (.removePeer id)).files path = .ok (new, report') ∧
        RemovesPeer id old new) ∧
    ∀ command,
      (∃ address name, command = .addPeer address name) ∨ (∃ id, command = .removePeer id) →
      (perform h c command).result.isOk = false →
      ((∀ cause, (perform h c command).result ≠ .error (.saving path cause)) →
        (perform h c command).files = h.files) ∧
      (∀ content, h.files.read (.ofText path) = .ok content →
        (perform h c command).files.read (.ofText path) = .ok content) ∧
      (h.files.IsTree → h.files.Spares (perform h c command).files (.ofText path)) := by
  refine ⟨?added, ?removed, ?failed⟩
  case added =>
    intro address name hanswer hdone
    obtain ⟨old, report, new, n, hload, ⟨hsound, hadmitted, rfl⟩, hsave⟩ :=
      (edits_addPeer hfile address name).of_isOk hdone
    have hkept := Registry.isKept_of_load hload
    have hadds := addsPeer_store hadmitted
    have hregular : (addedPeer h c address name).IsRegular :=
      ⟨Peer.isNamed_named _ _ _, hsound, isSound_addedPeer hnetwork address name⟩
    have hnewback : ∀ id p, (old.store (addedPeer h c address name)).get? id = some p →
        p.capability.IsReadBack := by
      intro id p hget
      rcases (hadds.get?_iff id p).1 hget with hold | ⟨-, rfl⟩
      · exact hback old report hload id p hold
      · exact isReadBack_addedPeer hanswer name
    obtain ⟨loaded, report', hloaded, hsame⟩ :=
      (hkept.store hadmitted hregular).load_of_save hnewback hsave
    refine ⟨old, report, loaded, report', hload, hloaded, hadds.remote, hadds.unused, ?_⟩
    intro id q
    rw [hsame, hadds.get?_iff]
  case removed =>
    intro id hdone
    obtain ⟨old, report, new, n, hload, ⟨hthere, rfl⟩, hsave⟩ :=
      (edits_removePeer hfile id).of_isOk hdone
    have hremoves := removesPeer_erase hthere
    have hsub : ∀ id' p, (⟨old.peers.erase id⟩ : Registry).get? id' = some p →
        old.get? id' = some p := fun id' p hget => ((hremoves.get?_iff id' p).1 hget).2
    obtain ⟨loaded, report', hloaded, hsame⟩ :=
      ((Registry.isKept_of_load hload).mono hsub).load_of_save
        (fun id' p hget => hback old report hload id' p (hsub id' p hget)) hsave
    refine ⟨old, report, loaded, report', hload, hloaded, hremoves.there, ?_⟩
    intro id' q
    rw [hsame, hremoves.get?_iff]
  case failed =>
    rintro command (⟨address, name, rfl⟩ | ⟨id, rfl⟩) hdone
    · exact (edits_addPeer hfile address name).of_not_isOk hdone
    · exact (edits_removePeer hfile id).of_not_isOk hdone

/-- A host with the peer file `peers.json`, whose nodes all answer alike. -/
def hostWith (text : String) : Host :=
  { environment := ⟨.empty, none⟩
    files := (Registry.withFile text).files
    faults := .none
    network := httpNetwork Traffic.answering ⟨1, .zero, .zero, .zero⟩
    clock := .steady Traffic.noon 0
    happenings := [] }

/-- The settings with that file. -/
def withPeersFile : FleetConfig :=
  { FleetConfig.builtin ⟨.empty, none⟩ with peersFile := some "peers.json" }

/-- A peer at a host, and what is no record. -/
def twoRecords : String := "[\x7b\"ip\":\"a\"\x7d,0]"

theorem isReadBack_twoRecords {old : Registry} {report : LoadReport}
    (hload : Registry.empty.load (hostWith twoRecords).files "peers.json" =
      .ok (old, report)) {id : String} {p : Peer} (hget : old.get? id = some p) :
    p.capability.IsReadBack := by
  have hunseen : (Registry.empty.load (hostWith twoRecords).files "peers.json").toOption.map
      (fun loaded => loaded.1.snapshot.map Peer.capability) = some [.unseen] := by
    decide +kernel
  rw [hload] at hunseen
  have hall : old.snapshot.map Peer.capability = [.unseen] := Option.some.inj hunseen
  have hmem : p.capability ∈ old.snapshot.map Peer.capability :=
    List.mem_map_of_mem (Registry.mem_snapshot_iff.2 ⟨id, hget⟩)
  have hcapability : p.capability = .unseen := by simpa [hall] using hmem
  rw [hcapability]
  exact isReadBack_unseen

/-- The address of another peer. -/
def otherAddress : Address := ⟨"10.0.0.3", defaultPort⟩

theorem probed_otherAddress :
    probed (hostWith twoRecords) withPeersFile otherAddress = .ok Traffic.answered := by
  decide +kernel

/-- Where the peer file cannot be replaced. -/
def unwilling : Host :=
  { hostWith twoRecords with faults := { FileSystem.Faults.none with rename := some .busy } }

theorem isTree_hostWith_twoRecords : (hostWith twoRecords).files.IsTree :=
  FileSystem.isTree_of_keys (by decide +kernel)

/-- One of two records is loaded. Another peer joins it, or it is removed; a peer that is not there
is not removed, and what cannot be saved does not join. -/
theorem commands_edit_the_peer_file_twoRecords :
    let h := hostWith twoRecords
    let c := withPeersFile
    let adding := perform h c (.addPeer otherAddress (some "gpu"))
    let removing := perform h c (.removePeer "a")
    let refused := perform h c (.removePeer "gpu")
    let unsaved := perform unwilling c (.addPeer otherAddress (some "gpu"))
    (adding.result.isOk = true ∧ removing.result.isOk = true ∧ refused.result.isOk = false ∧
      unsaved.result.isOk = false) ∧
    (∃ old report new report', Registry.empty.load h.files "peers.json" = .ok (old, report) ∧
      Registry.empty.load adding.files "peers.json" = .ok (new, report') ∧
      AddsPeer (addedPeer h c otherAddress (some "gpu")) old new) ∧
    (∃ old report new report', Registry.empty.load h.files "peers.json" = .ok (old, report) ∧
      Registry.empty.load removing.files "peers.json" = .ok (new, report') ∧
      RemovesPeer "a" old new) ∧
    refused.files = h.files ∧
    unsaved.files.read (.ofText "peers.json") = .ok twoRecords.toUTF8 ∧
    h.files.IsTree ∧ h.files.Spares unsaved.files (.ofText "peers.json") := by
  intro h c adding removing refused unsaved
  have hadded : adding.result.isOk = true := by decide +kernel
  have hremoved : removing.result.isOk = true := by decide +kernel
  have hrefused : refused.result.isOk = false := by decide +kernel
  have hnoCause : (match refused.result with
      | .error e => e.cause?
      | .ok _ => none) = none := by decide +kernel
  have hunsaved : unsaved.result.isOk = false := by decide +kernel
  have hanswer : ∀ answer, probed h c otherAddress = .ok answer → answer.IsReadBack := by
    intro answer hbrought
    rw [← Except.ok.inj (probed_otherAddress.symm.trans hbrought)]
    exact Traffic.isReadBack_answered
  obtain ⟨hadds, hremoves, hfails⟩ := commands_edit_the_peer_file h c "peers.json"
    Traffic.answering ⟨1, .zero, .zero, .zero⟩ rfl rfl fun old report hload id p hget =>
      isReadBack_twoRecords hload hget
  have hfiles : unwilling.files = h.files := rfl
  have hback : ∀ old report, Registry.empty.load unwilling.files "peers.json" = .ok (old, report) →
      ∀ id p, old.get? id = some p → p.capability.IsReadBack := by
    intro old report hload id p hget
    rw [hfiles] at hload
    exact isReadBack_twoRecords hload hget
  obtain ⟨-, -, hfails'⟩ := commands_edit_the_peer_file unwilling c "peers.json"
    Traffic.answering ⟨1, .zero, .zero, .zero⟩ rfl rfl hback
  refine ⟨⟨hadded, hremoved, hrefused, hunsaved⟩, hadds otherAddress (some "gpu") hanswer hadded,
    hremoves "a" hremoved, ?_, ?_, isTree_hostWith_twoRecords, ?_⟩
  · refine (hfails (.removePeer "gpu") (.inr ⟨"gpu", rfl⟩) hrefused).1 fun cause hsaving => ?_
    have hsaved : refused.result = .error (.saving "peers.json" cause) := hsaving
    rw [hsaved] at hnoCause
    exact absurd hnoCause (Option.some_ne_none _)
  · have hread : h.files.read (.ofText "peers.json") = .ok twoRecords.toUTF8 := rfl
    exact (hfails' _ (.inl ⟨otherAddress, some "gpu", rfl⟩) hunsaved).2.1 _ (hfiles ▸ hread)
  · have hspared := (hfails' _ (.inl ⟨otherAddress, some "gpu", rfl⟩) hunsaved).2.2
    rw [hfiles] at hspared
    exact hspared isTree_hostWith_twoRecords

/-- The peer file is not there, because its path leads up out of a directory that is missing. The
directory is made, then the peer cannot be saved, and the path leads to another file now. -/
theorem failed_addition_reveals_file :
    ¬ ∀ (h : Host) (c : FleetConfig) (path : String) (transport : Transport)
      (hardware : Exchange.Hardware), c.peersFile = some path →
      h.network = httpNetwork transport hardware → h.files.IsTree → ∀ address name,
      (perform h c (.addPeer address name)).result.isOk = false →
      ∀ content, (perform h c (.addPeer address name)).files.read (.ofText path) = .ok content ↔
        h.files.read (.ofText path) = .ok content := by
  intro hall
  let h : Host := { hostWith "" with files := Fleet.shelf }
  let c : FleetConfig := { withPeersFile with peersFile := some "a/b/../c" }
  have hfails : (perform h c (.addPeer otherAddress none)).result.isOk = false := by decide +kernel
  have hsame := hall h c "a/b/../c" Traffic.answering ⟨1, .zero, .zero, .zero⟩ rfl rfl
    Fleet.isTree_shelf otherAddress none hfails
  have hafter : ((perform h c (.addPeer otherAddress none)).files.read (.ofText "a/b/../c")).isOk =
      true := by decide +kernel
  have hbefore : (h.files.read (.ofText "a/b/../c")).isOk = false := by decide +kernel
  cases hread : (perform h c (.addPeer otherAddress none)).files.read (.ofText "a/b/../c") with
  | error e =>
      rw [hread] at hafter
      cases hafter
  | ok content =>
      rw [(hsame content).1 hread] at hbefore
      cases hbefore

end Program

end InferenceFleet
