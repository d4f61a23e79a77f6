import InferenceFleet.Program.Session
import InferenceFleet.Proofs.Files.Untouched
import InferenceFleet.Proofs.Registry.PeerFile
import InferenceFleet.Proofs.Registry.Restoring

/-!
# All or nothing

Saving a fleet changes its files and nothing else. Where it succeeds, the file is the list of all
remote peers by ascending identifier, and no temporary file is left (`Registry.isWholeAt_of_save`).
Where it fails, at whichever step, the path is spared: what was there is there still. One thing may
appear at a path by a failure: a path that leads up out of a directory that was missing leads
somewhere once that directory is made.
-/

namespace InferenceFleet

namespace Fleet

/-- Saves the peers of a fleet to a file, and says how many they are. -/
def save (f : Fleet) (path : String) : Except RegistryError Nat × Fleet :=
  let (result, files) := f.registry.save f.faults f.files path
  (result, { f with files := files })

@[simp]
theorem save_registry (f : Fleet) (path : String) : (f.save path).2.registry = f.registry := rfl

theorem registry_save_eq (f : Fleet) (path : String) :
    f.registry.save f.faults f.files path = ((f.save path).1, (f.save path).2.files) := rfl

end Fleet

/-- A cycle that has learned something saves the fleet, whatever comes of it. -/
theorem Cycle.persist_eq_save {c : MonitorConfig} {path : String} (hpath : c.peersFile = some path)
    {report : CycleReport} (hlearned : 0 < report.succeeded + report.discovered) (f : Fleet) :
    persist c f report = (f.save path).2 := by
  simp only [persist, hpath, if_pos hlearned]
  rfl

/-- A session with a peer file saves the fleet, and tells why it could not be saved. -/
theorem Program.Session.save_eq_save {s : Session} {path : String}
    (hpath : s.config.peersFile = some path) :
    s.save = (((s.world.fleet.save path).1.map fun _ => ()).mapError (.saving path),
      s.withFleet (s.world.fleet.save path).2) := by
  simp only [save, hpath]
  rw [Fleet.registry_save_eq]
  dsimp only
  cases (s.world.fleet.save path).1 <;> rfl

namespace Registry

variable {r : Registry} {faults : FileSystem.Faults} {fs fs' : FileSystem} {path : String}

/-- A file holds all remote peers of a registry, of which there are `n`. -/
structure IsWholeAt (r : Registry) (fs : FileSystem) (path : String) (n : Nat) : Prop where
  text : fs.readText (.ofText path) = .ok r.fileText
  /-- The text is that of a list with a record for each remote peer. -/
  entries : (∀ p ∈ r.remotePeers, p.capability.IsReadBack) →
    entriesOf path r.fileText = .ok (r.remotePeers.map Peer.entry)
  count : n = r.remotePeers.length
  ascending : r.remotePeers.Pairwise fun p q => p.id < q.id
  mem_iff : ∀ p, p ∈ r.remotePeers ↔ p.id ≠ localId ∧ r.get? p.id = some p
  no_temporary : fs.find (FileSystem.temporary (.ofText path)) = .error .notFound

theorem isWholeAt_of_save (hr : r.IsConsistent) {n : Nat}
    (h : r.save faults fs path = (.ok n, fs')) : r.IsWholeAt fs' path n where
  text := (readText_of_save h).2
  entries := entriesOf_fileText path
  count := (readText_of_save h).1
  ascending := hr.snapshot_ascending.filter _
  mem_iff _ := hr.mem_remotePeers_iff
  no_temporary := FileSystem.find_temporary_of_replaceText (replaceText_of_save h).2

theorem spares_of_save {e : RegistryError} (htree : fs.IsTree)
    (h : r.save faults fs path = (.error e, fs')) : fs.Spares fs' (.ofText path) := by
  obtain ⟨e', hreplace⟩ := exists_of_save_eq_error h
  exact FileSystem.spares_of_replaceText_eq_some htree hreplace

end Registry

namespace Fleet

/-- A save leaves the registry as it is. If it fails, whatever goes wrong, it spares the path; if it
succeeds, the path has all remote peers, as many as it tells, and no temporary file is left. -/
theorem save_is_whole_or_spares_path {f : Fleet} (hpeers : f.registry.IsConsistent)
    (hfiles : f.files.IsTree) (path : String) :
    (f.save path).2.registry = f.registry ∧
      match (f.save path).1 with
      | .ok n => f.registry.IsWholeAt (f.save path).2.files path n
      | .error _ => f.files.Spares (f.save path).2.files (.ofText path) := by
  have hsave := f.registry_save_eq path
  refine ⟨f.save_registry path, ?_⟩
  cases hresult : (f.save path).1 with
  | ok n =>
      rw [hresult] at hsave
      exact Registry.isWholeAt_of_save hpeers hsave
  | error e =>
      rw [hresult] at hsave
      exact Registry.spares_of_save hfiles hsave

/-- A file system with a directory, in which a file and a directory stand side by side. -/
def shelf : FileSystem :=
  (((⟨.empty, []⟩ : FileSystem).put ["a"] (.directory false)).put ["a", "c"]
    (.file "[]".toUTF8)).put ["a", "c.tmp"] (.directory false)

theorem isTree_shelf : shelf.IsTree := FileSystem.isTree_of_keys (by decide +kernel)

/-- A fleet on some files, which fail at nothing but what they refuse. -/
def atRest (r : Registry) (fs : FileSystem) : Fleet :=
  { registry := r, files := fs, faults := .none, errors := .empty 0, events := none,
    completed := 0, clock := .steady .epoch 0 }

/-- This node and two others. -/
def trio : Registry :=
  ((Registry.empty.perform (.enroll ⟨"b", ⟨"10.0.0.1", defaultPort⟩, .unseen⟩)).perform
    (.enroll ⟨"a", ⟨"10.0.0.2", defaultPort⟩, .unseen⟩)).perform
    (.registerLocal ⟨"localhost", defaultPort⟩ .unseen)

theorem isConsistent_trio : trio.IsConsistent :=
  ((Registry.isConsistent_empty.perform _).perform _).perform _

/-- Where the temporary file would be, there is a directory; elsewhere there is room. -/
theorem save_is_whole_or_spares_path_trio :
    let f := atRest trio shelf
    f.registry.IsConsistent ∧ f.files.IsTree ∧
      (f.save "a/c").1 = .error (.io "a/c" "Is a directory (os error 21)") ∧
      f.files.Spares (f.save "a/c").2.files (.ofText "a/c") ∧
      (f.save "a/b/d").1 = .ok 2 ∧ f.registry.IsWholeAt (f.save "a/b/d").2.files "a/b/d" 2 := by
  intro f
  have hfails : (f.save "a/c").1 = .error (.io "a/c" "Is a directory (os error 21)") := by
    decide +kernel
  have hsaves : (f.save "a/b/d").1 = .ok 2 := by decide +kernel
  have hfailed := (save_is_whole_or_spares_path (f := f) isConsistent_trio isTree_shelf "a/c").2
  have hsaved := (save_is_whole_or_spares_path (f := f) isConsistent_trio isTree_shelf "a/b/d").2
  rw [hfails] at hfailed
  rw [hsaves] at hsaved
  exact ⟨isConsistent_trio, isTree_shelf, hfails, hfailed, hsaves, hsaved⟩

/-- Nothing is at the path, because it leads up out of a directory that is missing. The directory is
made, then the save fails, and there is the file that the path leads to now. -/
theorem failed_save_reveals_file :
    ¬ ∀ (f : Fleet) (path : String) (e : RegistryError), f.registry.IsConsistent →
      f.files.IsTree → (f.save path).1 = .error e →
      ∀ entry, (f.save path).2.files.find (.ofText path) = .ok entry ↔
        f.files.find (.ofText path) = .ok entry := by
  intro hall
  let f := atRest .empty shelf
  have hfails : (f.save "a/b/../c").1 =
      .error (.io "a/b/../c" "Is a directory (os error 21)") := by decide +kernel
  have hsame := hall f "a/b/../c" _ Registry.isConsistent_empty isTree_shelf hfails
  have hafter : (f.save "a/b/../c").2.files.holds (.ofText "a/b/../c") = true := by
    decide +kernel
  have hbefore : f.files.holds (.ofText "a/b/../c") = false := by decide +kernel
  unfold FileSystem.holds at hafter hbefore
  cases hfind : (f.save "a/b/../c").2.files.find (.ofText "a/b/../c") with
  | error e =>
      rw [hfind] at hafter
      cases hafter
  | ok entry =>
      rw [(hsame entry).1 hfind] at hbefore
      cases hbefore

end Fleet

end InferenceFleet
