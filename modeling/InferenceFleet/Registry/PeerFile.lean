import InferenceFleet.Files.Replacement
import InferenceFleet.Json.Reader
import InferenceFleet.Json.Writer
import InferenceFleet.Peer.Record
import InferenceFleet.Registry.Basic

/-!
# The peer file

The fleet is kept in a file as a JSON list of records, one for each peer but this node. Loading
goes through the records in order and admits each one that is readable, acceptable and no
duplicate of a peer that is there already; the others are skipped, each for a reason. A missing
file holds no records. Saving replaces the file as a whole or not at all.
-/

namespace InferenceFleet

/-- Why a record is skipped. -/
inductive SkipReason
  /-- It does not have the form of a record. -/
  | undecodable
  /-- It is not acceptable, or not admitted. -/
  | refused (error : RegistryError)

/-- What became of the records of a file. -/
structure LoadReport where
  loaded : Nat
  /-- The records left out, by their place in the file. -/
  skipped : List (Nat × SkipReason)

/-- Nothing was there to load. -/
def LoadReport.zero : LoadReport := ⟨0, []⟩

namespace Registry

/-- The peer of a record in a file. -/
def peerOfEntry (entry : Tree) : Except SkipReason Peer :=
  match PeerRecord.ofTree? entry with
  | none => .error .undecodable
  | some record => record.toPeer.mapError .refused

/-- Admits the peer of a record in a file. -/
def loadEntry (r : Registry) (entry : Tree) : Except SkipReason Registry :=
  match peerOfEntry entry with
  | .error reason => .error reason
  | .ok peer => (r.enroll peer).mapError .refused

/-- Admits the peers of the records of a file, the first of which has the place `index`. -/
def loadEntries (r : Registry) (report : LoadReport) (index : Nat) :
    List Tree → Registry × LoadReport
  | [] => (r, report)
  | entry :: rest =>
      match r.loadEntry entry with
      | .ok r => r.loadEntries { report with loaded := report.loaded + 1 } (index + 1) rest
      | .error reason =>
          r.loadEntries { report with skipped := report.skipped ++ [(index, reason)] } (index + 1)
            rest

/-- The records of a peer file. -/
def entriesOf (path text : String) : Except RegistryError (List Tree) :=
  match Json.readGeneric? text with
  | none => .error (.config (.peerFile path none))
  | some (.list entries) => .ok entries
  | some _ => .error (.config (.peerFile path (some ConfigError.notAList)))

/-- The text of a file that may be missing. -/
def textOf (fs : FileSystem) (path : String) : Except RegistryError (Option String) :=
  match fs.readText (.ofText path) with
  | .ok text => .ok (some text)
  | .error .notFound => .ok none
  | .error e => .error (.io path e.message)

/-- Loads the peers of a file into the registry. -/
def load (r : Registry) (fs : FileSystem) (path : String) :
    Except RegistryError (Registry × LoadReport) :=
  match textOf fs path with
  | .error e => .error e
  | .ok none => .ok (r, .zero)
  | .ok (some text) =>
      match entriesOf path text with
      | .error e => .error e
      | .ok entries => .ok (r.loadEntries .zero 0 entries)

/-- The peers that are kept in a file. -/
def remotePeers (r : Registry) : List Peer := r.snapshot.filter fun p => !p.isLocal

/-- The text of the peer file. -/
def fileText (r : Registry) : String :=
  Json.indented (.list (r.remotePeers.map fun p => (PeerRecord.ofPeer p).toTree))

/-- Saves the peers to a file, and says how many they are. -/
def save (faults : FileSystem.Faults) (r : Registry) (fs : FileSystem) (path : String) :
    Except RegistryError Nat × FileSystem :=
  match fs.replaceText faults (.ofText path) r.fileText with
  | (some e, fs) => (.error (.io path e.message), fs)
  | (none, fs) => (.ok r.remotePeers.length, fs)

end Registry

end InferenceFleet
