import InferenceFleet.Proofs.Document.Values
import InferenceFleet.Proofs.Files.Replacement
import InferenceFleet.Proofs.Registry.Remote

/-!
# The peers of a file are those that were saved

A registry that is saved and loaded again gives back its remote peers, save those whose address or
capability is not sound: each of these is skipped (`load_of_save`). That no peer is refused on the
way rests on the registry that was saved being consistent: its remote peers are at different hosts
and under different identifiers, so none of them stands in the way of another.
-/

namespace InferenceFleet

/-- What is read of the record of a peer in a peer file. -/
def Peer.entry (p : Peer) : Tree := Json.kept (PeerRecord.ofPeer p).toTree

/-- A saved peer that is named as peers are, and whose numbers and times are read back. -/
structure Peer.IsRestorable (p : Peer) : Prop where
  named : p.IsNamed
  isReadBack : p.capability.IsReadBack

namespace Registry

/-- The records that are read of what is written for a registry. -/
theorem entriesOf_fileText {r : Registry} (path : String)
    (hback : ∀ p ∈ r.remotePeers, p.capability.IsReadBack) :
    entriesOf path r.fileText = .ok (r.remotePeers.map Peer.entry) := by
  have hwritable : Json.Writable Json.maxDepth
      (.list (r.remotePeers.map fun p => (PeerRecord.ofPeer p).toTree)) := by
    show Json.Writable (126 + 1) _
    refine .list fun entry hentry => ?_
    obtain ⟨p, hp, rfl⟩ := List.mem_map.1 hentry
    exact PeerRecord.writable_ofPeer 123 (hback p hp)
  rw [entriesOf, fileText, Json.readGeneric?_indented hwritable]
  simp only [Json.kept, Json.keptItems_eq, List.map_map]
  rfl

theorem peerOfEntry_eq_ok_iff {entry : Tree} {p : Peer} :
    peerOfEntry entry = .ok p ↔
      ∃ record, PeerRecord.ofTree? entry = some record ∧ record.toPeer = .ok p := by
  unfold peerOfEntry
  cases PeerRecord.ofTree? entry with
  | none => simp
  | some record => cases hpeer : record.toPeer <;> simp [Except.mapError, hpeer]

/-- What is read of the record of a peer stands for that peer, if it is sound, and for none else. -/
theorem peerOfEntry_entry_eq_ok_iff {p q : Peer} (h : p.IsRestorable) :
    peerOfEntry p.entry = .ok q ↔ q.IsSound ∧ q = p := by
  rw [peerOfEntry_eq_ok_iff, Peer.entry, PeerRecord.ofTree?_kept_ofPeer h.isReadBack]
  constructor
  · rintro ⟨record, hrecord, hpeer⟩
    split at hrecord
    · obtain rfl := Option.some.inj hrecord
      exact (PeerRecord.toPeer_ofPeer_eq_ok_iff h.named).1 hpeer
    · cases hrecord
  · rintro ⟨hsound, rfl⟩
    exact ⟨PeerRecord.ofPeer q, if_pos hsound.2.isFinite,
      (PeerRecord.toPeer_ofPeer_eq_ok_iff h.named).2 ⟨hsound, rfl⟩⟩

theorem exists_peerOfEntry_eq_error {p : Peer} (h : p.IsRestorable) (hsound : ¬ p.IsSound) :
    ∃ reason, peerOfEntry p.entry = .error reason := by
  cases hpeer : peerOfEntry p.entry with
  | error reason => exact ⟨reason, rfl⟩
  | ok q =>
      obtain ⟨hq, rfl⟩ := (peerOfEntry_entry_eq_ok_iff h).1 hpeer
      exact absurd hq hsound

/-- Two peers that may be in one registry: under different identifiers and at different hosts. -/
def Apart (p q : Peer) : Prop :=
  p.id ≠ q.id ∧ Text.sameUpToAsciiCase p.address.host q.address.host = false

/-- A peer that is stored does not keep a peer out that is apart from it. -/
theorem refusal?_store_eq_none {r : Registry} {p q : Peer} (hapart : Apart p q)
    (hfree : r.refusal? q = none) : (r.store p).refusal? q = none := by
  obtain ⟨hlocal, hhosts, hid⟩ := refusal?_eq_none_iff.1 hfree
  refine refusal?_eq_none_iff.2 ⟨hlocal, fun id there hget => ?_, ?_⟩
  · rw [get?_store] at hget
    split at hget
    · cases hget
      exact hapart.2
    · exact hhosts id there hget
  · rw [get?_store, if_neg hapart.1, hid]

/-- Of peers that are apart and not refused, the sound ones are stored and the others skipped. -/
theorem loadEntries_entries {ps : List Peer} (hps : ∀ p ∈ ps, p.IsRestorable)
    (hapart : ps.Pairwise Apart) {r : Registry} (hfree : ∀ p ∈ ps, r.refusal? p = none)
    (report : LoadReport) (index : Nat) :
    (r.loadEntries report index (ps.map Peer.entry)).1 =
        (ps.filter fun p => p.IsSound).foldl store r ∧
      (r.loadEntries report index (ps.map Peer.entry)).2.loaded =
        report.loaded + ps.countP (fun p => p.IsSound) ∧
      (r.loadEntries report index (ps.map Peer.entry)).2.skipped.length =
        report.skipped.length + ps.countP (fun p => ¬ p.IsSound) := by
  induction ps generalizing r report index with
  | nil => exact ⟨rfl, rfl, rfl⟩
  | cons p ps ih =>
      obtain ⟨hp, hps⟩ := List.forall_mem_cons.1 hps
      obtain ⟨hpapart, hapart⟩ := List.pairwise_cons.1 hapart
      obtain ⟨hpfree, hfree⟩ := List.forall_mem_cons.1 hfree
      by_cases hsound : p.IsSound
      · have hload : r.loadEntry p.entry = .ok (r.store p) := by
          rw [loadEntry, (peerOfEntry_entry_eq_ok_iff hp).2 ⟨hsound, rfl⟩]
          simp only [enroll_eq_ok_iff.2 ⟨hpfree, rfl⟩]
          rfl
        have hfree' : ∀ q ∈ ps, (r.store p).refusal? q = none := fun q hq =>
          refusal?_store_eq_none (hpapart q hq) (hfree q hq)
        have hstep : r.loadEntries report index ((p :: ps).map Peer.entry) =
            (r.store p).loadEntries { report with loaded := report.loaded + 1 } (index + 1)
              (ps.map Peer.entry) := by
          simp only [List.map_cons, loadEntries, hload]
        have hyes : decide p.IsSound = true := decide_eq_true hsound
        have hno : ¬ decide (¬ p.IsSound) = true := by simp [hsound]
        obtain ⟨hstored, hloaded, hskipped⟩ := ih hps hapart hfree'
          { report with loaded := report.loaded + 1 } (index + 1)
        rw [hstep, hstored, hloaded, hskipped,
          List.filter_cons_of_pos (p := fun p : Peer => decide p.IsSound) hyes,
          List.countP_cons_of_pos (p := fun p : Peer => decide p.IsSound) hyes,
          List.countP_cons_of_neg (p := fun p : Peer => decide (¬ p.IsSound)) hno]
        exact ⟨rfl, Nat.succ_add _ _, rfl⟩
      · obtain ⟨reason, hreason⟩ := exists_peerOfEntry_eq_error hp hsound
        have hstep : r.loadEntries report index ((p :: ps).map Peer.entry) =
            r.loadEntries { report with skipped := report.skipped ++ [(index, reason)] } (index + 1)
              (ps.map Peer.entry) := by
          simp only [List.map_cons, loadEntries, loadEntry, hreason]
        have hyes : decide (¬ p.IsSound) = true := decide_eq_true hsound
        have hno : ¬ decide p.IsSound = true := by simp [hsound]
        obtain ⟨hstored, hloaded, hskipped⟩ := ih hps hapart hfree
          { report with skipped := report.skipped ++ [(index, reason)] } (index + 1)
        rw [hstep, hstored, hloaded, hskipped,
          List.filter_cons_of_neg (p := fun p : Peer => decide p.IsSound) hno,
          List.countP_cons_of_neg (p := fun p : Peer => decide p.IsSound) hno,
          List.countP_cons_of_pos (p := fun p : Peer => decide (¬ p.IsSound)) hyes,
          List.length_append]
        exact ⟨rfl, rfl, Nat.succ_add _ _⟩

/-- Where no identifier is there twice, what is stored is found again. -/
theorem get?_foldl_store {ps : List Peer} (hids : ps.Pairwise fun p q => p.id ≠ q.id)
    {r : Registry} (hfree : ∀ p ∈ ps, r.get? p.id = none) {id : String} {q : Peer} :
    (ps.foldl store r).get? id = some q ↔ r.get? id = some q ∨ q ∈ ps ∧ q.id = id := by
  induction ps generalizing r with
  | nil => simp
  | cons p ps ih =>
      obtain ⟨hp, hids⟩ := List.pairwise_cons.1 hids
      obtain ⟨hpfree, hfree⟩ := List.forall_mem_cons.1 hfree
      have hfree' : ∀ q ∈ ps, (r.store p).get? q.id = none := fun q hq => by
        rw [get?_store, if_neg (hp q hq), hfree q hq]
      rw [List.foldl_cons, ih hids hfree', get?_store_eq_some_iff hpfree, or_assoc, ← or_and_right,
        List.mem_cons]

theorem IsConsistent.remotePeers_apart {r : Registry} (h : r.IsConsistent) :
    r.remotePeers.Pairwise Apart := by
  refine (h.snapshot_ascending.filter _).imp_of_mem fun {p q} hp hq hlt => ?_
  obtain ⟨hplocal, hpget⟩ := h.mem_remotePeers_iff.1 hp
  obtain ⟨hqlocal, hqget⟩ := h.mem_remotePeers_iff.1 hq
  have hid : p.id ≠ q.id := by
    intro heq
    rw [heq] at hlt
    exact String.lt_irrefl _ hlt
  refine ⟨hid, Bool.eq_false_iff.2 fun hsame => hid ?_⟩
  exact h.id_eq_of_host hpget hqget hplocal hqlocal hsame

theorem refusal?_empty {p : Peer} (hremote : p.id ≠ localId) : empty.refusal? p = none :=
  refusal?_eq_none_iff.2 ⟨hremote, nofun, rfl⟩

/-- Saving succeeds where the text of the file was replaced, and tells how many peers are kept. -/
theorem replaceText_of_save {r : Registry} {faults : FileSystem.Faults} {fs fs' : FileSystem}
    {path : String} {n : Nat} (h : r.save faults fs path = (.ok n, fs')) :
    n = r.remotePeers.length ∧
      fs.replaceText faults (.ofText path) r.fileText = (none, fs') := by
  unfold save at h
  split at h
  · cases h
  · next fs₁ hreplace =>
      obtain ⟨hcount, rfl⟩ := Prod.mk.inj h
      exact ⟨(Except.ok.inj hcount).symm, hreplace⟩

/-- Saving leaves the text of the registry in the file. -/
theorem readText_of_save {r : Registry} {faults : FileSystem.Faults} {fs fs' : FileSystem}
    {path : String} {n : Nat} (h : r.save faults fs path = (.ok n, fs')) :
    n = r.remotePeers.length ∧ fs'.readText (.ofText path) = .ok r.fileText := by
  obtain ⟨hcount, hreplace⟩ := replaceText_of_save h
  exact ⟨hcount, FileSystem.readText_of_replaceText hreplace⟩

/-- The entry of this node has no part in what is saved. -/
theorem AgreesRemotely.save_eq {r r' : Registry} (h : r.AgreesRemotely r') (hr : r.IsConsistent)
    (hr' : r'.IsConsistent) (faults : FileSystem.Faults) (fs : FileSystem) (path : String) :
    r.save faults fs path = r'.save faults fs path := by
  rw [save, save, fileText, fileText, h.remotePeers_eq hr hr']

theorem textOf_of_readText {fs : FileSystem} {path text : String}
    (htext : fs.readText (.ofText path) = .ok text) : textOf fs path = .ok (some text) := by
  unfold textOf
  rw [htext]

/-- Loading a file goes through its records. -/
theorem load_of_readText {fs : FileSystem} {path text : String} {entries : List Tree}
    (htext : fs.readText (.ofText path) = .ok text) (hentries : entriesOf path text = .ok entries)
    (r : Registry) : r.load fs path = .ok (r.loadEntries .zero 0 entries) := by
  unfold load
  rw [textOf_of_readText htext]
  dsimp only
  rw [hentries]

/-- A registry that is saved and loaded again has its sound remote peers, and nothing else; the
other remote peers are skipped. -/
theorem load_of_save {r : Registry} (hr : r.IsConsistent)
    (hpeers : ∀ p ∈ r.remotePeers, p.IsRestorable) {faults : FileSystem.Faults}
    {fs fs' : FileSystem} {path : String} {n : Nat}
    (hsave : r.save faults fs path = (.ok n, fs')) :
    ∃ loaded report, empty.load fs' path = .ok (loaded, report) ∧
      (∀ id p, loaded.get? id = some p ↔ id ≠ localId ∧ r.get? id = some p ∧ p.IsSound) ∧
      report.loaded = r.remotePeers.countP (fun p => p.IsSound) ∧
      report.skipped.length = r.remotePeers.countP (fun p => ¬ p.IsSound) := by
  have hload := load_of_readText (readText_of_save hsave).2
    (entriesOf_fileText path fun p hp => (hpeers p hp).isReadBack) empty
  have hfree : ∀ p ∈ r.remotePeers, empty.refusal? p = none := fun p hp =>
    refusal?_empty (hr.mem_remotePeers_iff.1 hp).1
  obtain ⟨hstored, hloaded, hskipped⟩ :=
    loadEntries_entries hpeers hr.remotePeers_apart hfree .zero 0
  refine ⟨_, _, hload, ?_, hloaded.trans (Nat.zero_add _), hskipped.trans (Nat.zero_add _)⟩
  intro id p
  have hids : (r.remotePeers.filter fun p => p.IsSound).Pairwise fun p q => p.id ≠ q.id :=
    (hr.remotePeers_apart.imp And.left).filter _
  rw [hstored, get?_foldl_store hids fun _ _ => rfl, List.mem_filter, hr.mem_remotePeers_iff,
    decide_eq_true_iff]
  constructor
  · rintro (hnone | ⟨⟨⟨hremote, hget⟩, hsound⟩, rfl⟩)
    · cases hnone
    · exact ⟨hremote, hget, hsound⟩
  · rintro ⟨hremote, hget, hsound⟩
    obtain rfl := hr.id_eq hget
    exact .inr ⟨⟨⟨hremote, hget⟩, hsound⟩, rfl⟩

end Registry

end InferenceFleet
