import InferenceFleet.Program.Daemon
import InferenceFleet.Proofs.Interleaving.LastSeen
import InferenceFleet.Proofs.Interleaving.Loading

/-!
# A file that is read again

Once the records of a file have been gone through, the registry refuses the peer of each of them:
the peer of a record that came in is there itself, and what stood in the way of another one is there
too (`LoadsInOrder.refusal?_ne_none`). A refusal lasts while no peer is removed and this node stays
at its host (`refusal?_run_ne_none`), for no other access takes an identifier or a host back. So
reading the file again skips every record.
-/

namespace InferenceFleet

namespace Registry

variable {r r' : Registry} {a : Access} {entries : List Tree} {entry : Tree} {report : LoadReport}
  {p : Peer}

theorem Unopposed.mono {place later : Nat} (hle : place ≤ later)
    (h : Unopposed r entries report later p) : Unopposed r entries report place p where
  remote := h.remote
  present := h.present
  earlier sooner hsooner := h.earlier sooner (hsooner.trans_le hle)

/-- The peer of no record of the file would be taken in again. -/
theorem LoadsInOrder.refusal?_ne_none (h : LoadsInOrder r entries r' report)
    (hentry : entry ∈ entries) (hp : Describes entry p) : r'.refusal? p ≠ none := by
  intro hfree
  obtain ⟨place, hplace⟩ := List.getElem?_of_mem hentry
  have hlt : place < entries.length := (List.getElem?_eq_some_iff.1 hplace).1
  have hunopposed : Unopposed r entries report place p :=
    (h.refusal?_eq_none_iff.1 hfree).mono hlt.le
  have htaken : ¬ report.Skips place := (h.taken_iff place entry hplace).2 ⟨p, hp, hunopposed⟩
  have hthere : r'.get? p.id = some p :=
    (h.get?_iff p.id p).2 (.inr ⟨place, entry, hplace, htaken, hp, rfl⟩)
  rw [(Registry.refusal?_eq_none_iff.1 hfree).2.2] at hthere
  cases hthere

/-- Of records whose peers are all refused every one is skipped. -/
theorem loadEntries_of_refused
    (hrefused : ∀ entry ∈ entries, ∀ p, Describes entry p → r.refusal? p ≠ none)
    (report : LoadReport) (index : Nat) :
    ∃ skipped, r.loadEntries report index entries =
        (r, { report with skipped := report.skipped ++ skipped }) ∧
      skipped.length = entries.length := by
  induction entries generalizing report index with
  | nil =>
      refine ⟨[], ?_, rfl⟩
      rw [List.append_nil]
      rfl
  | cons entry rest ih =>
      obtain ⟨hentry, hrest⟩ := List.forall_mem_cons.1 hrefused
      cases hload : r.loadEntry entry with
      | ok r' =>
          obtain ⟨p, hp, hfree, -⟩ := loadEntry_eq_ok_iff.1 hload
          exact absurd hfree (hentry p hp)
      | error reason =>
          obtain ⟨skipped, hskipped, hlength⟩ := ih hrest
            { report with skipped := report.skipped ++ [(index, reason)] } (index + 1)
          refine ⟨(index, reason) :: skipped, ?_, congrArg (· + 1) hlength⟩
          simp only [loadEntries, hload, hskipped, List.append_assoc, List.singleton_append]

/-- An access that may make room for a peer: a peer is removed, or this node is entered at another
host. -/
def MakesRoom (r : Registry) : Access → Prop
  | .remove id => ∃ p, r.get? id = some p
  | .registerLocal address c =>
      c.available = true ∧ ∃ p, r.get? localId = some p ∧
        Text.sameUpToAsciiCase p.address.host address.host = false
  | _ => False

/-- An entry stays at its host with an access that makes no room. -/
theorem exists_get?_perform (hroom : ¬ r.MakesRoom a) {id : String} (hget : r.get? id = some p) :
    ∃ q, (r.perform a).get? id = some q ∧
      Text.sameUpToAsciiCase p.address.host q.address.host = true := by
  by_cases hid : a.id = id
  · have hremove : a ≠ .remove id := by
      rintro rfl
      exact hroom ⟨p, hget⟩
    rcases perform_cases hget hremove with
      hkept | hwithdrawn | ⟨c, now, -, hrefreshed⟩ | ⟨address, c, rfl, havailable, hreplaced⟩
    · exact ⟨p, hkept, Text.sameUpToAsciiCase_refl _⟩
    · exact ⟨p.withdrawn, hwithdrawn, Text.sameUpToAsciiCase_refl _⟩
    · exact ⟨_, hrefreshed, Text.sameUpToAsciiCase_refl _⟩
    · obtain rfl : localId = id := hid
      refine ⟨_, hreplaced, ?_⟩
      show Text.sameUpToAsciiCase p.address.host address.host = true
      by_contra hmoved
      exact hroom ⟨havailable, p, hget, Bool.eq_false_iff.2 hmoved⟩
  · rw [get?_perform, if_neg hid]
    exact ⟨p, hget, Text.sameUpToAsciiCase_refl _⟩

/-- A peer that is refused is refused after an access that makes no room, too. -/
theorem refusal?_perform_ne_none (hroom : ¬ r.MakesRoom a) (hrefused : r.refusal? p ≠ none) :
    (r.perform a).refusal? p ≠ none := by
  intro hfree
  obtain ⟨hremote, hhosts, hid⟩ := refusal?_eq_none_iff.1 hfree
  apply hrefused
  refine refusal?_eq_none_iff.2 ⟨hremote, fun id q hget => ?_, ?_⟩
  · obtain ⟨q', hget', hsame⟩ := exists_get?_perform hroom hget
    rw [Text.sameUpToAsciiCase_comm] at hsame
    refine Bool.eq_false_iff.2 fun htaken => ?_
    have hclash := Text.sameUpToAsciiCase_trans hsame htaken
    rw [hhosts id q' hget'] at hclash
    cases hclash
  · cases hget : r.get? p.id with
    | none => rfl
    | some q =>
        obtain ⟨q', hget', -⟩ := exists_get?_perform hroom hget
        rw [hid] at hget'
        cases hget'

end Registry

namespace Traffic

variable {t : Traffic} {m : Move}

/-- With this move room may be made for a peer. -/
def MakesRoom (t : Traffic) (m : Move) : Prop :=
  ∃ a, t.access? m = some a ∧ t.registry.MakesRoom a

theorem refusal?_step_ne_none {p : Peer} (hroom : ¬ t.MakesRoom m)
    (hrefused : t.registry.refusal? p ≠ none) : (t.step m).registry.refusal? p ≠ none := by
  rw [step_registry]
  cases haccess : t.access? m with
  | none => exact hrefused
  | some a => exact Registry.refusal?_perform_ne_none (fun ha => hroom ⟨a, haccess, ha⟩) hrefused

/-- A peer that is refused is refused in the course of every run that makes no room. -/
theorem refusal?_run_ne_none {p : Peer} {moves : List Move}
    (hroom : ∀ before m, before ++ [m] <+: moves → ¬ (t.run before).MakesRoom m)
    (hrefused : t.registry.refusal? p ≠ none) : (t.run moves).registry.refusal? p ≠ none := by
  induction moves generalizing t with
  | nil => exact hrefused
  | cons m rest ih =>
      have hfirst : ¬ t.MakesRoom m := hroom [] m ⟨rest, rfl⟩
      have hlater : ∀ before m', before ++ [m'] <+: rest →
          ¬ ((t.step m).run before).MakesRoom m' := fun before m' hbefore =>
        hroom (m :: before) m' (List.cons_prefix_cons.2 ⟨rfl, hbefore⟩)
      exact ih hlater (refusal?_step_ne_none hfirst hrefused)

/-- Room is made by no other move than to remove a peer, to enter this node, or to take the answer
of this node in a cycle. -/
theorem MakesRoom.cases (h : t.MakesRoom m) :
    (∃ id, m = .access (.remove id)) ∨ (∃ address c, m = .access (.registerLocal address c)) ∨
      ∃ place settings address c, m = .proceed place (.thisNode c) ∧
        t.calls[place]? = some (.cycling settings (.thisNode address)) := by
  obtain ⟨a, haccess, hroom⟩ := h
  cases m with
  | access a' =>
      obtain rfl := Option.some.inj haccess
      cases a' with
      | remove id => exact .inl ⟨id, rfl⟩
      | registerLocal address c => exact .inr (.inl ⟨address, c, rfl⟩)
      | enroll p => exact hroom.elim
      | update id c now => exact hroom.elim
      | markUnavailable id => exact hroom.elim
  | proceed place arrival =>
      rcases access?_proceed_cases haccess with
        ⟨q, rfl⟩ | ⟨id, c, now, rfl⟩ | ⟨id, rfl⟩ | ⟨settings, address, c, -, rfl, hcall⟩
      · exact hroom.elim
      · exact hroom.elim
      · exact hroom.elim
      · exact .inr (.inr ⟨place, settings, address, c, rfl, hcall⟩)
  | add address name => cases haccess
  | load path => cases haccess
  | cycle c => cases haccess
  | drop place => cases haccess
  | beside f => cases haccess

/-- After a file was read, and in the course of any run that makes no room, reading the file again
admits nothing: every record is skipped and the registry stays as it is, with all that was learned
of the peers since, also where it is the daemon that is told to read the file again. To add or admit
peers, to load any file and to note an answered or a failed probe makes no room: only removing a
peer and entering this node may. -/
theorem reloading_admits_nothing (r : Registry) (fs fs' : FileSystem) (path text : String)
    (entries : List Tree) (t : Traffic) (report : LoadReport) (moves : List Move)
    (htext : fs.readText (.ofText path) = .ok text)
    (hlist : Json.readGeneric? text = some (.list entries))
    (hload : r.load fs path = .ok (t.registry, report))
    (hroom : ∀ before m, before ++ [m] <+: moves → ¬ (t.run before).MakesRoom m)
    (htext' : fs'.readText (.ofText path) = .ok text) :
    (∃ report', (t.run moves).registry.load fs' path = .ok ((t.run moves).registry, report') ∧
      report'.loaded = 0 ∧ report'.skipped.length = entries.length) ∧
    (∀ d : Program.Daemon, d.session.config.peersFile = some path →
      d.session.registry = (t.run moves).registry → d.session.files = fs' → d.reload = d) ∧
    ∀ (u : Traffic) (m : Move), u.MakesRoom m →
      (∃ id, m = .access (.remove id)) ∨ (∃ address c, m = .access (.registerLocal address c)) ∨
        ∃ place settings address c, m = .proceed place (.thisNode c) ∧
          u.calls[place]? = some (.cycling settings (.thisNode address)) := by
  have hentries : Registry.entriesOf path text = .ok entries :=
    Registry.entriesOf_eq_ok_iff.2 hlist
  have hloaded := Registry.loadsInOrder_loadEntries r entries
  rw [Registry.load_of_readText htext hentries] at hload
  rw [Except.ok.inj hload] at hloaded
  have hrefused : ∀ entry ∈ entries, ∀ p, Registry.Describes entry p →
      (t.run moves).registry.refusal? p ≠ none := by
    intro entry hentry p hp
    exact refusal?_run_ne_none hroom (hloaded.refusal?_ne_none hentry hp)
  obtain ⟨skipped, hskipped, hlength⟩ := Registry.loadEntries_of_refused hrefused .zero 0
  have hreload := Registry.load_of_readText htext' hentries (t.run moves).registry
  rw [hskipped] at hreload
  refine ⟨⟨_, hreload, rfl, hlength⟩, ?_, fun u m hroom => hroom.cases⟩
  intro d hpath hregistry hfiles
  have hagain : d.session.world.fleet.registry.load d.session.world.fleet.files path =
      .ok (d.session.world.fleet.registry, ⟨0, [] ++ skipped⟩) := by
    rw [show d.session.world.fleet.registry = _ from hregistry,
      show d.session.world.fleet.files = _ from hfiles]
    exact hreload
  unfold Program.Daemon.reload
  simp only [hpath, hagain]
  rfl

/-- Records of a peer, of one at the same host, of one at no host, and of another peer. -/
def fourRecords : String :=
  "[\x7b\"ip\":\"a\"\x7d,\x7b\"ip\":\"A\"\x7d,\x7b\x7d,\x7b\"ip\":\"b\"\x7d]"

/-- A peer answers and then does not any more, a peer is added, and another one is admitted. -/
def afterLoading : List Move :=
  [.access (.update "b" { Capability.unseen with available := true } ⟨500, 0⟩),
    .access (.markUnavailable "b"), .add ⟨"c", defaultPort⟩ none,
    .proceed 0 (.outcome nodeAnswer), .access (.enroll (nodeAt "d"))]

theorem reloading_admits_nothing_fourRecords :
    let files := (Registry.withFile fourRecords).files
    files.readText (.ofText "peers.json") = .ok fourRecords ∧
    ∃ (entries : List Tree) (t : Traffic) (report report' : LoadReport),
      Json.readGeneric? fourRecords = some (.list entries) ∧
      Registry.empty.load files "peers.json" = .ok (t.registry, report) ∧ report.loaded = 2 ∧
      (∀ before m, before ++ [m] <+: afterLoading → ¬ (t.run before).MakesRoom m) ∧
      (t.run afterLoading).registry.peers.keys = ["a", "b", "c", "node"] ∧
      (t.run afterLoading).registry.load files "peers.json" =
        .ok ((t.run afterLoading).registry, report') ∧
      report'.loaded = 0 ∧ report'.skipped.length = 4 := by
  intro files
  have htext : files.readText (.ofText "peers.json") = .ok fourRecords :=
    Registry.readText_withFile _
  have hloaded : (Registry.empty.load files "peers.json").toOption.map
      (fun loaded => (loaded.2.loaded, loaded.2.skipped.length,
        (run ⟨{ quiet with registry := loaded.1 }, []⟩ afterLoading).registry.peers.keys)) =
        some (2, 2, ["a", "b", "c", "node"]) := by decide +kernel
  refine ⟨htext, ?_⟩
  cases hload : Registry.empty.load files "peers.json" with
  | error e =>
      rw [hload] at hloaded
      cases hloaded
  | ok loaded =>
      obtain ⟨r, report⟩ := loaded
      obtain ⟨entries, hlist, hrecords⟩ := Registry.exists_entries_of_load_eq_ok htext hload
      rw [hload] at hloaded
      obtain ⟨hcount, hrest⟩ := Prod.mk.inj (Option.some.inj hloaded)
      obtain ⟨hskipped, hkeys⟩ := Prod.mk.inj hrest
      have haccounted := (Registry.loadsInOrder_loadEntries .empty entries).accounted
      rw [hrecords] at haccounted
      have hroom : ∀ before m, before ++ [m] <+: afterLoading →
          ¬ (run ⟨{ quiet with registry := r }, []⟩ before).MakesRoom m := by
        intro before m hbefore hroom
        have hmem : m ∈ afterLoading := hbefore.subset (by simp)
        rcases hroom.cases with
          ⟨id, rfl⟩ | ⟨address, c, rfl⟩ | ⟨place, settings, address, c, rfl, -⟩ <;>
        simp [afterLoading] at hmem
      obtain ⟨⟨report', hreload, hnone, hall⟩, -⟩ := reloading_admits_nothing .empty files files
        "peers.json" fourRecords entries ⟨{ quiet with registry := r }, []⟩ report afterLoading
        htext hlist hload hroom htext
      refine ⟨entries, ⟨{ quiet with registry := r }, []⟩, report, report', hlist, rfl, hcount,
        hroom, hkeys, hreload, hnone, ?_⟩
      rw [hall, ← haccounted, hcount, hskipped]

end Traffic

end InferenceFleet
