import InferenceFleet.Proofs.Interleaving.Landing
import InferenceFleet.Proofs.Interleaving.Undisturbed
import InferenceFleet.Proofs.Registry.PeerFile
import Mathlib.Data.List.Induction

/-!
# Who comes first in a file comes in

Loading goes through the records of a file in order, and each record is checked against all that is
there by then: the peers from before and those of earlier records. So whether a record is taken in
can be told from the file and the registry alone, record by record (`LoadsInOrder`): it has to
describe a sound peer that is not this node and stands apart from every peer before it. The peers
from before stay as they are, and every record is counted once, as loaded or as skipped.

What one more record does to that (`LoadsInOrder.store`, `LoadsInOrder.skip`) gives it for all
records, by induction from the end of the file.
-/

namespace InferenceFleet

/-- A record of a file is left out. -/
def LoadReport.Skips (report : LoadReport) (place : Nat) : Prop :=
  place ∈ report.skipped.map Prod.fst

namespace Registry

/-- A record of a file describes a peer: it has the form of a record, the address and the capability
in it are sound, and the peer goes by its name or its host; a record without capability describes a
peer that was never seen. -/
def Describes (entry : Tree) (p : Peer) : Prop :=
  ∃ record, PeerRecord.ofTree? entry = some record ∧
    (p.address.IsSound ∧ p.capability.IsSound) ∧
    p = Peer.named ⟨record.host, record.port⟩ record.name (record.capability.getD .unseen)

theorem describes_iff {entry : Tree} {p : Peer} :
    Describes entry p ↔ peerOfEntry entry = .ok p := by
  rw [peerOfEntry_eq_ok_iff]
  apply exists_congr
  intro record
  exact and_congr_right fun _ => PeerRecord.toPeer_eq_ok_iff.symm

/-- A record describes one peer at most. -/
theorem Describes.unique {entry : Tree} {p q : Peer} (hp : Describes entry p)
    (hq : Describes entry q) : p = q := by
  rw [describes_iff] at hp hq
  exact Except.ok.inj (hp.symm.trans hq)

theorem loadEntry_eq_ok_iff {r r' : Registry} {entry : Tree} :
    r.loadEntry entry = .ok r' ↔
      ∃ p, Describes entry p ∧ r.refusal? p = none ∧ r' = r.store p := by
  simp only [describes_iff]
  unfold loadEntry
  cases peerOfEntry entry with
  | error reason => simp
  | ok p =>
      simp only [Except.ok.injEq, exists_eq_left', ← enroll_eq_ok_iff]
      cases r.enroll p <;> simp [Except.mapError]

/-- The last record of a file meets what the others have left. -/
theorem loadEntries_concat (r : Registry) (report : LoadReport) (index : Nat)
    (entries : List Tree) (entry : Tree) :
    r.loadEntries report index (entries ++ [entry]) =
      match (r.loadEntries report index entries).1.loadEntry entry with
      | .ok r' =>
          (r', { (r.loadEntries report index entries).2 with
            loaded := (r.loadEntries report index entries).2.loaded + 1 })
      | .error reason =>
          ((r.loadEntries report index entries).1,
            { (r.loadEntries report index entries).2 with
              skipped := (r.loadEntries report index entries).2.skipped ++
                [(index + entries.length, reason)] }) := by
  induction entries generalizing r report index with
  | nil =>
      simp only [List.nil_append, loadEntries]
      cases r.loadEntry entry <;> rfl
  | cons first rest ih =>
      have hlength : index + (first :: rest).length = index + 1 + rest.length := by
        rw [List.length_cons]
        omega
      rw [List.cons_append, loadEntries, loadEntries, hlength]
      cases r.loadEntry first with
      | ok r' => exact ih r' _ _
      | error reason => exact ih r _ _

/-- What there is among records with one more at the end. -/
theorem exists_getElem?_concat_iff {entries : List Tree} {entry : Tree} {P : Nat → Tree → Prop} :
    (∃ place other, (entries ++ [entry])[place]? = some other ∧ P place other) ↔
      (∃ place other, entries[place]? = some other ∧ P place other) ∨ P entries.length entry := by
  constructor
  · rintro ⟨place, other, hother, hplace⟩
    rcases Traffic.getElem?_concat_cases hother with hold | ⟨rfl, rfl⟩
    · exact .inl ⟨place, other, hold, hplace⟩
    · exact .inr hplace
  · rintro (⟨place, other, hold, hplace⟩ | hlast)
    · have hlt := (List.getElem?_eq_some_iff.1 hold).1
      exact ⟨place, other, (List.getElem?_append_left hlt).trans hold, hplace⟩
    · exact ⟨entries.length, entry, List.getElem?_concat_length, hlast⟩

/-- Nothing stands in the way of the peer of a record: neither that it would be this node, nor an
entry from before, nor a peer of an earlier record that was taken in. -/
structure Unopposed (r : Registry) (entries : List Tree) (report : LoadReport) (place : Nat)
    (p : Peer) : Prop where
  remote : p.id ≠ localId
  present : ∀ id q, r.get? id = some q →
    id ≠ p.id ∧ Text.sameUpToAsciiCase q.address.host p.address.host = false
  earlier : ∀ sooner < place, ∀ entry q, entries[sooner]? = some entry →
    ¬ report.Skips sooner → Describes entry q → Apart q p

/-- What loading the records of a file comes to, from one registry to another. -/
structure LoadsInOrder (r : Registry) (entries : List Tree) (r' : Registry)
    (report : LoadReport) : Prop where
  /-- Every record is counted once. -/
  accounted : report.loaded + report.skipped.length = entries.length
  /-- The places of the records that are left out, in order. -/
  ascending : (report.skipped.map Prod.fst).Pairwise (· < ·)
  lt_length : ∀ place, report.Skips place → place < entries.length
  /-- There are as many more peers as records were loaded. -/
  grown : r'.size = r.size + report.loaded
  /-- A record is taken in exactly if it describes a peer that nothing stands in the way of. -/
  taken_iff : ∀ place entry, entries[place]? = some entry →
    (¬ report.Skips place ↔ ∃ p, Describes entry p ∧ Unopposed r entries report place p)
  /-- The peers from before are there unchanged, and those of the records that were taken in are
  there as they are described; no others are. -/
  get?_iff : ∀ id p, r'.get? id = some p ↔
    r.get? id = some p ∨
      ∃ place entry, entries[place]? = some entry ∧ ¬ report.Skips place ∧
        Describes entry p ∧ p.id = id

variable {r r' : Registry} {entries : List Tree} {report report' : LoadReport} {entry : Tree}
  {p : Peer}

/-- Later records have no part in what stands in the way of an earlier one. -/
theorem unopposed_concat_iff {place : Nat} (hplace : place ≤ entries.length)
    (hskips : ∀ sooner < entries.length, report'.Skips sooner ↔ report.Skips sooner) :
    Unopposed r (entries ++ [entry]) report' place p ↔ Unopposed r entries report place p := by
  have hsame : ∀ sooner < place, (entries ++ [entry])[sooner]? = entries[sooner]? ∧
      (report'.Skips sooner ↔ report.Skips sooner) := fun sooner hsooner =>
    ⟨List.getElem?_append_left (by omega), hskips sooner (by omega)⟩
  constructor
  · rintro ⟨hremote, hpresent, hearlier⟩
    refine ⟨hremote, hpresent, fun sooner hsooner other q hother htaken => ?_⟩
    apply hearlier sooner hsooner other q ((hsame sooner hsooner).1.trans hother)
    rwa [(hsame sooner hsooner).2]
  · rintro ⟨hremote, hpresent, hearlier⟩
    refine ⟨hremote, hpresent, fun sooner hsooner other q hother htaken => ?_⟩
    apply hearlier sooner hsooner other q ((hsame sooner hsooner).1.symm.trans hother)
    rwa [← (hsame sooner hsooner).2]

namespace LoadsInOrder

/-- After some records the registry refuses a peer exactly if something stands in its way. -/
theorem refusal?_eq_none_iff (h : LoadsInOrder r entries r' report) :
    r'.refusal? p = none ↔ Unopposed r entries report entries.length p := by
  rw [Registry.refusal?_eq_none_iff]
  constructor
  · rintro ⟨hremote, hhosts, hid⟩
    refine ⟨hremote, fun id q hget => ⟨?_, ?_⟩,
      fun sooner hsooner other q hother htaken hq => ⟨?_, ?_⟩⟩
    · rintro rfl
      rw [(h.get?_iff _ q).2 (.inl hget)] at hid
      cases hid
    · exact hhosts id q ((h.get?_iff id q).2 (.inl hget))
    · intro heq
      rw [(h.get?_iff p.id q).2 (.inr ⟨sooner, other, hother, htaken, hq, heq⟩)] at hid
      cases hid
    · exact hhosts q.id q ((h.get?_iff q.id q).2 (.inr ⟨sooner, other, hother, htaken, hq, rfl⟩))
  · rintro ⟨hremote, hpresent, hearlier⟩
    have hlt : ∀ {sooner : Nat} {other : Tree}, entries[sooner]? = some other →
        sooner < entries.length := fun hother => (List.getElem?_eq_some_iff.1 hother).1
    refine ⟨hremote, fun id q hget => ?_, ?_⟩
    · rcases (h.get?_iff id q).1 hget with hbefore | ⟨sooner, other, hother, htaken, hq, -⟩
      · exact (hpresent id q hbefore).2
      · exact (hearlier sooner (hlt hother) other q hother htaken hq).2
    · cases hget : r'.get? p.id with
      | none => rfl
      | some q =>
          rcases (h.get?_iff p.id q).1 hget with hbefore | ⟨sooner, other, hother, htaken, hq, hid⟩
          · exact absurd rfl (hpresent p.id q hbefore).1
          · exact absurd hid (hearlier sooner (hlt hother) other q hother htaken hq).1

theorem not_skips_length (h : LoadsInOrder r entries r' report) :
    ¬ report.Skips entries.length := fun hskips => absurd (h.lt_length _ hskips) (lt_irrefl _)

/-- One more record that is taken in. -/
theorem store (h : LoadsInOrder r entries r' report) (hp : Describes entry p)
    (hfree : r'.refusal? p = none) :
    LoadsInOrder r (entries ++ [entry]) (r'.store p)
      { report with loaded := report.loaded + 1 } where
  accounted := by
    have haccounted := h.accounted
    rw [List.length_append, List.length_singleton]
    show report.loaded + 1 + report.skipped.length = entries.length + 1
    omega
  ascending := h.ascending
  lt_length place hskips := by
    have hlt := h.lt_length place hskips
    rw [List.length_append]
    omega
  grown := by
    have hgrown := h.grown
    have habsent : r'.get? p.id = none := (Registry.refusal?_eq_none_iff.1 hfree).2.2
    rw [Registry.size_store habsent, hgrown]
    rfl
  taken_iff := by
    intro place other hother
    have hskips : ∀ sooner < entries.length,
        LoadReport.Skips { report with loaded := report.loaded + 1 } sooner ↔
          report.Skips sooner := fun _ _ => Iff.rfl
    rcases Traffic.getElem?_concat_cases hother with hold | ⟨rfl, rfl⟩
    · have hlt := (List.getElem?_eq_some_iff.1 hold).1
      simp only [unopposed_concat_iff hlt.le hskips]
      exact h.taken_iff place other hold
    · simp only [unopposed_concat_iff le_rfl hskips]
      exact iff_of_true h.not_skips_length ⟨p, hp, h.refusal?_eq_none_iff.1 hfree⟩
  get?_iff := by
    intro id q
    have habsent : r'.get? p.id = none := (Registry.refusal?_eq_none_iff.1 hfree).2.2
    have hlast : (¬ report.Skips entries.length ∧ Describes entry q ∧ q.id = id) ↔
        q = p ∧ q.id = id := by
      constructor
      · rintro ⟨-, hq, hid⟩
        obtain rfl := hp.unique hq
        exact ⟨rfl, hid⟩
      · rintro ⟨rfl, hid⟩
        exact ⟨h.not_skips_length, hp, hid⟩
    rw [get?_store_eq_some_iff habsent, h.get?_iff, or_assoc, exists_getElem?_concat_iff]
    exact or_congr_right (or_congr_right hlast.symm)

/-- One more record that is left out. -/
theorem skip (h : LoadsInOrder r entries r' report)
    (hrefused : ∀ p, Describes entry p → r'.refusal? p ≠ none) (reason : SkipReason) :
    LoadsInOrder r (entries ++ [entry]) r'
      { report with skipped := report.skipped ++ [(entries.length, reason)] } := by
  have hskips : ∀ place,
      LoadReport.Skips { report with skipped := report.skipped ++ [(entries.length, reason)] }
        place ↔ report.Skips place ∨ place = entries.length := by
    intro place
    simp [LoadReport.Skips]
  have hsame : ∀ place < entries.length,
      (LoadReport.Skips { report with skipped := report.skipped ++ [(entries.length, reason)] }
        place ↔ report.Skips place) := by
    intro place hlt
    rw [hskips]
    exact or_iff_left hlt.ne
  constructor
  case accounted =>
    have haccounted := h.accounted
    show report.loaded + (report.skipped ++ [(entries.length, reason)]).length = _
    rw [List.length_append, List.length_append, List.length_singleton, List.length_singleton]
    omega
  case ascending =>
    rw [List.map_append, List.pairwise_append]
    refine ⟨h.ascending, List.pairwise_singleton _ _, fun place hplace last hlast => ?_⟩
    obtain rfl := List.mem_singleton.1 hlast
    exact h.lt_length place hplace
  case lt_length =>
    intro place hplace
    rw [List.length_append, List.length_singleton]
    rcases (hskips place).1 hplace with hold | rfl
    · exact Nat.lt_succ_of_lt (h.lt_length place hold)
    · exact Nat.lt_succ_self _
  case grown => exact h.grown
  case taken_iff =>
    intro place other hother
    rcases Traffic.getElem?_concat_cases hother with hold | ⟨rfl, rfl⟩
    · have hlt := (List.getElem?_eq_some_iff.1 hold).1
      simp only [unopposed_concat_iff hlt.le hsame, hsame place hlt]
      exact h.taken_iff place other hold
    · simp only [unopposed_concat_iff le_rfl hsame]
      refine iff_of_false (not_not.2 ((hskips _).2 (.inr rfl))) ?_
      rintro ⟨p, hp, hfree⟩
      exact hrefused p hp (h.refusal?_eq_none_iff.2 hfree)
  case get?_iff =>
    intro id q
    have hlast : ¬ LoadReport.Skips
        { report with skipped := report.skipped ++ [(entries.length, reason)] } entries.length ↔
          False := iff_false_intro (not_not.2 ((hskips _).2 (.inr rfl)))
    rw [h.get?_iff, exists_getElem?_concat_iff, hlast, false_and, or_false]
    refine or_congr_right (exists_congr fun place => exists_congr fun other =>
      and_congr_right fun hother => ?_)
    rw [hsame place (List.getElem?_eq_some_iff.1 hother).1]

end LoadsInOrder

/-- Nothing loaded, nothing changed. -/
theorem loadsInOrder_nil (r : Registry) : LoadsInOrder r [] r .zero where
  accounted := rfl
  ascending := .nil
  lt_length place hskips := absurd hskips List.not_mem_nil
  grown := rfl
  taken_iff place entry hentry := nomatch hentry
  get?_iff id p := by simp

/-- Loading goes through the records in order. -/
theorem loadsInOrder_loadEntries (r : Registry) (entries : List Tree) :
    LoadsInOrder r entries (r.loadEntries .zero 0 entries).1 (r.loadEntries .zero 0 entries).2 := by
  induction entries using List.reverseRecOn with
  | nil => exact loadsInOrder_nil r
  | append_singleton entries entry ih =>
      rw [loadEntries_concat, Nat.zero_add]
      cases hload : (r.loadEntries .zero 0 entries).1.loadEntry entry with
      | ok r' =>
          obtain ⟨p, hp, hfree, rfl⟩ := loadEntry_eq_ok_iff.1 hload
          exact ih.store hp hfree
      | error reason =>
          refine ih.skip (fun p hp hfree => ?_) reason
          rw [loadEntry_eq_ok_iff.2 ⟨p, hp, hfree, rfl⟩] at hload
          cases hload

/-! ## Files -/

theorem entriesOf_eq_ok_iff {path text : String} {entries : List Tree} :
    entriesOf path text = .ok entries ↔ Json.readGeneric? text = some (.list entries) := by
  unfold entriesOf
  split <;> simp_all

theorem textOf_of_missing {fs : FileSystem} {path : String}
    (hmissing : fs.readText (.ofText path) = .error .notFound) : textOf fs path = .ok none := by
  unfold textOf
  rw [hmissing]

theorem load_of_missing {fs : FileSystem} {path : String}
    (hmissing : fs.readText (.ofText path) = .error .notFound) (r : Registry) :
    r.load fs path = .ok (r, .zero) := by
  unfold load
  rw [textOf_of_missing hmissing]

theorem load_of_unreadable {fs : FileSystem} {path : String} {e : FileError}
    (hfails : fs.readText (.ofText path) = .error e) (hthere : e ≠ .notFound) (r : Registry) :
    r.load fs path = .error (.io path e.message) := by
  have htextOf : textOf fs path = .error (.io path e.message) := by
    unfold textOf
    rw [hfails]
    cases e with
    | notFound => exact absurd rfl hthere
    | _ => rfl
  unfold load
  rw [htextOf]

theorem load_of_entriesOf_eq_error {fs : FileSystem} {path text : String} {e : RegistryError}
    (htext : fs.readText (.ofText path) = .ok text) (hentries : entriesOf path text = .error e)
    (r : Registry) : r.load fs path = .error e := by
  unfold load
  rw [textOf_of_readText htext]
  dsimp only
  rw [hentries]

/-- Where loading a file succeeds, it goes through the records of the file. -/
theorem exists_entries_of_load_eq_ok {fs : FileSystem} {path text : String}
    {loaded : Registry × LoadReport} (htext : fs.readText (.ofText path) = .ok text)
    {r : Registry} (hload : r.load fs path = .ok loaded) :
    ∃ entries, Json.readGeneric? text = some (.list entries) ∧
      r.loadEntries .zero 0 entries = loaded := by
  cases hentries : entriesOf path text with
  | error e =>
      rw [load_of_entriesOf_eq_error htext hentries] at hload
      cases hload
  | ok entries =>
      rw [load_of_readText htext hentries] at hload
      exact ⟨entries, entriesOf_eq_ok_iff.1 hentries, Except.ok.inj hload⟩

end Registry

namespace Call

/-- A call that is done stays so and does nothing. -/
theorem alone_loaded (f : Fleet) (result : Except RegistryError LoadReport)
    (arrivals : List Arrival) : (loaded result).alone f arrivals = (f, .loaded result) := by
  induction arrivals with
  | nil => rfl
  | cons arrival rest ih => exact ih

/-- Where loading fails, the call is over as it begins. -/
theorem load_eq_of_error {f : Fleet} {path : String} {e : RegistryError}
    (hfails : f.registry.load f.files path = .error e) : load f path = .loaded (.error e) := by
  unfold Registry.load at hfails
  unfold load
  cases htext : Registry.textOf f.files path with
  | error e' =>
      simp only [htext] at hfails ⊢
      rw [Except.error.inj hfails]
  | ok text =>
      cases text with
      | none => simp [htext] at hfails
      | some text =>
          simp only [htext] at hfails ⊢
          cases hentries : Registry.entriesOf path text with
          | error e' =>
              simp only [hentries] at hfails ⊢
              rw [Except.error.inj hfails]
          | ok entries => simp [hentries] at hfails

end Call

namespace Registry

/-- Loading a file into any fleet. A list of records is gone through in order: each comes in exactly
if it describes a sound peer that nothing that came before stands in the way of, each is counted
once, and the peers from before stay as they are. A missing file gives a report of nothing. A file
that cannot be read, that is no JSON or whose JSON is no list gives an error that says so. In all
these cases the call makes no access, so the fleet stays as it is. -/
theorem first_comers_are_loaded (f : Fleet) (path : String) :
    (∀ text entries, f.files.readText (.ofText path) = .ok text →
      Json.readGeneric? text = some (.list entries) →
      ∃ r' report, f.registry.load f.files path = .ok (r', report) ∧
        LoadsInOrder f.registry entries r' report ∧
        Call.Leads (f, .load f path) ({ f with registry := r' }, .loaded (.ok report))) ∧
    (f.files.readText (.ofText path) = .error .notFound →
      f.registry.load f.files path = .ok (f.registry, .zero) ∧
        ∀ arrivals, (Call.load f path).alone f arrivals = (f, .loaded (.ok .zero))) ∧
    (∀ e, f.files.readText (.ofText path) = .error e → e ≠ .notFound →
      f.registry.load f.files path = .error (.io path e.message)) ∧
    (∀ text, f.files.readText (.ofText path) = .ok text → Json.readGeneric? text = none →
      f.registry.load f.files path = .error (.config (.peerFile path none))) ∧
    (∀ text tree, f.files.readText (.ofText path) = .ok text →
      Json.readGeneric? text = some tree → (∀ entries, tree ≠ .list entries) →
      f.registry.load f.files path =
        .error (.config (.peerFile path (some ConfigError.notAList)))) ∧
    ∀ e, f.registry.load f.files path = .error e →
      ∀ arrivals, (Call.load f path).alone f arrivals = (f, .loaded (.error e)) := by
  refine ⟨?_, ?_, ?_, ?_, ?_, ?_⟩
  · intro text entries htext hlist
    have hload := load_of_readText htext (entriesOf_eq_ok_iff.2 hlist) f.registry
    have hleads := Call.leads_load f path
    simp only [hload] at hleads
    exact ⟨_, _, hload, loadsInOrder_loadEntries f.registry entries, hleads⟩
  · intro hmissing
    refine ⟨load_of_missing hmissing f.registry, fun arrivals => ?_⟩
    have hcall : Call.load f path = .loaded (.ok .zero) := by
      unfold Call.load
      rw [textOf_of_missing hmissing]
    rw [hcall, Call.alone_loaded]
  · intro e hfails hthere
    exact load_of_unreadable hfails hthere f.registry
  · intro text htext hnone
    apply load_of_entriesOf_eq_error htext
    unfold entriesOf
    rw [hnone]
  · intro text tree htext htree hother
    apply load_of_entriesOf_eq_error htext
    unfold entriesOf
    rw [htree]
    cases tree with
    | list entries => exact absurd rfl (hother entries)
    | _ => rfl
  · intro e hfails arrivals
    rw [Call.load_eq_of_error hfails, Call.alone_loaded]

/-- A fleet with nothing but a peer file of some text. -/
def withFile (text : String) : Fleet :=
  { Traffic.quiet with files := Traffic.quiet.files.put ["peers.json"] (.file text.toUTF8) }

theorem readText_withFile (text : String) :
    (withFile text).files.readText (.ofText "peers.json") = .ok text := by
  have hread : (withFile text).files.read (.ofText "peers.json") = .ok text.toUTF8 := rfl
  unfold FileSystem.readText
  rw [hread]
  dsimp only
  rw [FileSystem.fromUTF8?_toUTF8]

/-- Records of a peer, of one at the same host, of one by the same name, of one by the name of this
node, of one at no host, of one whose load is out of bounds, and of another peer. -/
def sevenRecords : String :=
  "[\x7b\"name\":\"n\",\"ip\":\"a\"\x7d,\x7b\"ip\":\"A\"\x7d,\x7b\"name\":\"n\",\"ip\":\"b\"\x7d,"
    ++ "\x7b\"name\":\"local\",\"ip\":\"b\"\x7d,\x7b\x7d,"
    ++ "\x7b\"ip\":\"b\",\"capability\":\x7b\"load_avg\":500\x7d\x7d,\x7b\"ip\":\"b\"\x7d]"

theorem first_comers_are_loaded_sevenRecords :
    let f := withFile sevenRecords
    (f.files.readText (.ofText "peers.json") = .ok sevenRecords ∧
      ∃ entries r' report, Json.readGeneric? sevenRecords = some (.list entries) ∧
        f.registry.load f.files "peers.json" = .ok (r', report) ∧
        LoadsInOrder f.registry entries r' report ∧
        Call.Leads (f, .load f "peers.json") ({ f with registry := r' }, .loaded (.ok report)) ∧
        r'.peers.keys = ["b", "n"] ∧ report.skipped.map Prod.fst = [1, 2, 3, 4, 5]) ∧
    (f.files.readText (.ofText "other.json") = .error .notFound ∧
      f.registry.load f.files "other.json" = .ok (f.registry, .zero)) ∧
    (f.files.readText (.ofText ".") = .error .isADirectory ∧
      f.registry.load f.files "." = .error (.io "." FileError.isADirectory.message)) ∧
    (Json.readGeneric? "[" = none ∧
      (withFile "[").registry.load (withFile "[").files "peers.json" =
        .error (.config (.peerFile "peers.json" none)) ∧
      ∀ arrivals, (Call.load (withFile "[") "peers.json").alone (withFile "[") arrivals =
        (withFile "[", .loaded (.error (.config (.peerFile "peers.json" none))))) ∧
    (Json.readGeneric? "12" = some (.integer 12) ∧
      (withFile "12").registry.load (withFile "12").files "peers.json" =
        .error (.config (.peerFile "peers.json" (some ConfigError.notAList)))) := by
  intro f
  have hmissing : f.files.readText (.ofText "other.json") = .error .notFound := rfl
  have hdirectory : f.files.readText (.ofText ".") = .error .isADirectory := rfl
  have hunread : Json.readGeneric? "[" = none := rfl
  have hnumber : Json.readGeneric? "12" = some (.integer 12) := rfl
  have hloaded : (f.registry.load f.files "peers.json").toOption.map
      (fun result => (result.1.peers.keys, result.2.skipped.map Prod.fst)) =
        some (["b", "n"], [1, 2, 3, 4, 5]) := by decide +kernel
  refine ⟨⟨readText_withFile _, ?_⟩, ⟨hmissing, ?_⟩, ⟨hdirectory, ?_⟩, ⟨hunread, ?_⟩,
    ⟨hnumber, ?_⟩⟩
  · cases hread : f.registry.load f.files "peers.json" with
    | error e =>
        rw [hread] at hloaded
        cases hloaded
    | ok loaded =>
        obtain ⟨entries, hlist, -⟩ := exists_entries_of_load_eq_ok (readText_withFile _) hread
        obtain ⟨r', report, hload, hinOrder, hleads⟩ := (first_comers_are_loaded f "peers.json").1
          sevenRecords entries (readText_withFile _) hlist
        rw [hload] at hloaded
        obtain ⟨hkeys, hskipped⟩ := Prod.mk.inj (Option.some.inj hloaded)
        refine ⟨entries, r', report, hlist, ?_, hinOrder, hleads, hkeys, hskipped⟩
        rw [← hread, hload]
  · exact ((first_comers_are_loaded f "other.json").2.1 hmissing).1
  · exact (first_comers_are_loaded f ".").2.2.1 _ hdirectory nofun
  · obtain ⟨-, -, -, hunreadable, -, halone⟩ :=
      first_comers_are_loaded (withFile "[") "peers.json"
    have hload := hunreadable "[" (readText_withFile _) hunread
    exact ⟨hload, halone _ hload⟩
  · exact (first_comers_are_loaded (withFile "12") "peers.json").2.2.2.2.1 "12" _
      (readText_withFile _) hnumber nofun

end Registry

end InferenceFleet
