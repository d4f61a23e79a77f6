import InferenceFleet.Proofs.Files.Failing
import InferenceFleet.Proofs.Interleaving.Loading
import InferenceFleet.Proofs.Interleaving.Restored
import InferenceFleet.Proofs.Monitor.Outcomes
import InferenceFleet.Proofs.Registry.Restoring

/-!
# What cycles save

A cycle that completes saves the registry, if anything was learned in it. It reads the registry at
one moment and writes the file at another, and in between other calls take their steps. So traffic
is looked at once more, with reading and writing apart (`SavingTraffic`). The registry and the calls
are what they are in traffic where a cycle reads as it writes (`SavingTraffic.write_registry_calls`),
and where no cycle reads ahead the traffic is the same (`SavingTraffic.run_plain`).

What was read is what there was at some moment at which the cycle had nothing left to apply
(`SavingTraffic.exists_of_readBy`). No other step of a call changes a file (`Call.advance_files`),
so what files hold is told by what the steps that complete cycles write.
-/

namespace InferenceFleet

namespace Cycle

theorem applySeed_files (f : Fleet) (discovered : Nat) (result : Target × Outcome) :
    (applySeed (f, discovered) result).1.files = f.files := by
  obtain ⟨target, outcome⟩ := result
  cases outcome with
  | ok c =>
      simp only [applySeed]
      cases f.registry.enroll (Peer.named target.address none c) <;> rfl
  | error e => rfl

/-- A cycle saves if it has a file and anything was learned. -/
def Saves (c : MonitorConfig) (report : CycleReport) (path : String) : Prop :=
  c.peersFile = some path ∧ 0 < report.succeeded + report.discovered

/-- Completing a cycle is saving, if at all, and counting; the report does not tell of the file. -/
theorem complete_files_of_saves {c : MonitorConfig} {report : CycleReport} {path : String}
    (h : Saves c report path) (f : Fleet) :
    (complete c f report).1.files = (f.registry.save f.faults f.files path).2 := by
  show (persist c f report).files = _
  simp only [persist, h.1, if_pos h.2]

theorem complete_files_of_not_saves {c : MonitorConfig} {report : CycleReport}
    (h : ∀ path, ¬ Saves c report path) (f : Fleet) :
    (complete c f report).1.files = f.files := by
  show (persist c f report).files = _
  unfold persist
  cases hpath : c.peersFile with
  | none => rfl
  | some path => exact congrArg Fleet.files (if_neg fun hlearned => h path ⟨hpath, hlearned⟩)

theorem complete_report (c : MonitorConfig) (f : Fleet) (report : CycleReport) :
    (complete c f report).2 = { report with cycle := f.completed + 1 } := by
  obtain ⟨files, hcomplete⟩ := exists_complete_eq c f report
  rw [hcomplete]

end Cycle

namespace CyclePhase

/-- Only the last step of a cycle touches a file. -/
theorem advance_files {phase : CyclePhase} (hphase : ∀ report, phase ≠ .admitting report [])
    (c : MonitorConfig) (f : Fleet) (arrival : Arrival) :
    (phase.advance c f arrival).1.files = f.files := by
  cases phase with
  | thisNode address => cases arrival <;> rfl
  | reading report => rfl
  | probing report targets => cases arrival <;> rfl
  | applying report results =>
      cases results with
      | nil => rfl
      | cons result rest => exact (Cycle.leaves_applyOutcome f report result).files
  | seeking report seeds found => cases seeds <;> rfl
  | probingSeeds report targets => cases arrival <;> rfl
  | admitting report results =>
      cases results with
      | nil => exact absurd rfl (hphase report)
      | cons result rest => exact Cycle.applySeed_files f report.discovered result
  | finished report => rfl

end CyclePhase

namespace Call

/-- A cycle that has applied all outcomes, and completes with its next step. -/
def completing? : Call → Option (MonitorConfig × CycleReport)
  | .cycling c (.admitting report []) => some (c, report)
  | _ => none

theorem completing?_eq_some_iff {call : Call} {c : MonitorConfig} {report : CycleReport} :
    call.completing? = some (c, report) ↔ call = .cycling c (.admitting report []) := by
  unfold completing?
  split <;> simp_all

theorem advance_files {call : Call} (hcall : call.completing? = none) (f : Fleet)
    (arrival : Arrival) : (call.advance f arrival).1.files = f.files := by
  cases call with
  | adding candidate =>
      cases arrival with
      | outcome o =>
          simp only [advance]
          cases f.registry.enrollProbed candidate o.toOption <;> rfl
      | nothing => rfl
      | thisNode c => rfl
      | outcomes results => rfl
  | added result => rfl
  | loading report index entries =>
      cases entries with
      | nil => rfl
      | cons entry rest =>
          simp only [advance]
          cases f.registry.loadEntry entry <;> rfl
  | loaded result => rfl
  | cycling c phase =>
      refine CyclePhase.advance_files (fun report hphase => ?_) c f arrival
      rw [hphase] at hcall
      cases hcall
  | dropped => rfl

/-- A cycle that is through with all steps, or was given up. -/
inductive IsOver : Call → Prop
  | finished (c : MonitorConfig) (report : CycleReport) : IsOver (.cycling c (.finished report))
  | dropped : IsOver .dropped

theorem IsOver.advance {call : Call} (h : call.IsOver) (f : Fleet) (arrival : Arrival) :
    (call.advance f arrival).2 = call := by
  cases h with
  | finished c report => rfl
  | dropped => rfl

end Call

/-- Traffic in which cycles may read the registry ahead of writing what they have read. -/
structure SavingTraffic extends Traffic where
  /-- What the cycle at a place has read of the registry. -/
  readBy : Nat → Option Registry

/-- A move of the traffic, or a cycle that is about to complete reads the registry. -/
inductive SavingMove
  | plain (m : Move)
  | read (place : Nat)

namespace SavingTraffic

open Traffic (answered getElem?_calls_step isReadBack_answered quiet soundSeed)

/-- No calls yet, no peers, and nothing read. -/
def start (f : Fleet) : SavingTraffic := ⟨.start f, fun _ => none⟩

/-- What the cycle at a place saves: what it has read, or what there is if it has not yet read. -/
def saved (s : SavingTraffic) (place : Nat) : Registry := (s.readBy place).getD s.registry

/-- The traffic once a cycle completes: it saves what it has read, and the registry stays as it
is. -/
def complete (s : SavingTraffic) (place : Nat) (c : MonitorConfig) (report : CycleReport) :
    Traffic :=
  let (f, report) := Cycle.complete c { s.fleet with registry := s.saved place } report
  ⟨{ f with registry := s.registry }, s.calls.set place (.cycling c (.finished report))⟩

/-- The traffic after a move. -/
def write (s : SavingTraffic) : Move → Traffic
  | .proceed place arrival =>
      match s.calls[place]?.bind Call.completing? with
      | some (c, report) => s.complete place c report
      | none => s.toTraffic.step (.proceed place arrival)
  | m => s.toTraffic.step m

/-- The traffic after a move, or after a cycle that is about to complete has read the registry. -/
def step (s : SavingTraffic) : SavingMove → SavingTraffic
  | .plain m => ⟨s.write m, s.readBy⟩
  | .read place =>
      match s.calls[place]?.bind Call.completing? with
      | some _ => { s with readBy := Function.update s.readBy place (some s.registry) }
      | none => s

/-- The traffic after a run. -/
def run (s : SavingTraffic) (moves : List SavingMove) : SavingTraffic := moves.foldl step s

theorem run_concat (s : SavingTraffic) (moves : List SavingMove) (m : SavingMove) :
    s.run (moves ++ [m]) = (s.run moves).step m := List.foldl_append

/-- With this move the cycle at a place completes. -/
def Completes (s : SavingTraffic) (m : SavingMove) (place : Nat) (c : MonitorConfig)
    (report : CycleReport) : Prop :=
  (∃ arrival, m = .plain (.proceed place arrival)) ∧
    s.calls[place]? = some (.cycling c (.admitting report []))

variable {s : SavingTraffic} {m : Move} {place : Nat} {c : MonitorConfig} {report : CycleReport}

theorem bind_completing?_eq_some_iff :
    s.calls[place]?.bind Call.completing? = some (c, report) ↔
      s.calls[place]? = some (.cycling c (.admitting report [])) := by
  rw [Option.bind_eq_some_iff]
  simp only [Call.completing?_eq_some_iff, exists_eq_right]

theorem Completes.write_eq (h : s.Completes (.plain m) place c report) :
    s.write m = s.complete place c report := by
  obtain ⟨⟨arrival, hm⟩, hcall⟩ := h
  obtain rfl := SavingMove.plain.inj hm
  simp only [write, bind_completing?_eq_some_iff.2 hcall]

/-- In other traffic, a cycle that completes saves what there is. -/
theorem Completes.step_eq (h : s.Completes (.plain m) place c report) :
    s.toTraffic.step m =
      ⟨(Cycle.complete c s.fleet report).1,
        s.calls.set place (.cycling c (.finished (Cycle.complete c s.fleet report).2))⟩ := by
  obtain ⟨⟨arrival, hm⟩, hcall⟩ := h
  obtain rfl := SavingMove.plain.inj hm
  simp only [Traffic.step, hcall]
  rfl

/-- A move that completes no cycle is what it is in other traffic. -/
theorem write_eq_step (h : ∀ place c report, ¬ s.Completes (.plain m) place c report) :
    s.write m = s.toTraffic.step m := by
  cases m with
  | proceed place arrival =>
      cases hcompleting : s.calls[place]?.bind Call.completing? with
      | none => simp only [write, hcompleting]
      | some completed =>
          exact absurd ⟨⟨arrival, rfl⟩, bind_completing?_eq_some_iff.1 hcompleting⟩
            (h place completed.1 completed.2)
  | _ => rfl

theorem completes_or_write_eq_step (s : SavingTraffic) (m : Move) :
    (∃ place c report, s.Completes (.plain m) place c report) ∨
      (∀ place c report, ¬ s.Completes (.plain m) place c report) ∧
        s.write m = s.toTraffic.step m := by
  by_cases h : ∃ place c report, s.Completes (.plain m) place c report
  · exact .inl h
  · simp only [not_exists] at h
    exact .inr ⟨h, write_eq_step h⟩

/-- Reading ahead changes nothing for the others: registry and calls are as in traffic where a cycle
reads as it writes. -/
theorem write_registry_calls (s : SavingTraffic) (m : Move) :
    (s.write m).registry = (s.toTraffic.step m).registry ∧
      (s.write m).calls = (s.toTraffic.step m).calls := by
  rcases s.completes_or_write_eq_step m with ⟨place, c, report, hcompletes⟩ | ⟨-, hwrite⟩
  · rw [hcompletes.write_eq, hcompletes.step_eq]
    refine ⟨(Cycle.complete_registry c s.fleet report).symm, ?_⟩
    simp only [complete, Cycle.complete_report]
  · rw [hwrite]
    exact ⟨rfl, rfl⟩

/-- Where no cycle has read ahead, the traffic is the other traffic. -/
theorem write_of_unread (hunread : ∀ place, s.readBy place = none) (m : Move) :
    s.write m = s.toTraffic.step m := by
  have hwith : ∀ (f : Fleet) (r : Registry), f.registry = r → { f with registry := r } = f := by
    rintro f _ rfl
    rfl
  rcases s.completes_or_write_eq_step m with ⟨place, c, report, hcompletes⟩ | ⟨-, hwrite⟩
  · have hsaved : s.saved place = s.fleet.registry := by rw [saved, hunread]; rfl
    rw [hcompletes.write_eq, hcompletes.step_eq, complete, hsaved, hwith s.fleet _ rfl]
    simp only [hwith _ _ (Cycle.complete_registry c s.fleet report), Traffic.registry]
  · exact hwrite

/-! ## One step -/

theorem step_registry (s : SavingTraffic) (m : SavingMove) :
    ∃ a, (s.step m).registry = s.registry.performAny a := by
  cases m with
  | plain m =>
      refine ⟨s.toTraffic.access? m, ?_⟩
      rw [← Traffic.step_registry]
      exact (s.write_registry_calls m).1
  | read place =>
      refine ⟨none, ?_⟩
      simp only [step]
      split <;> rfl

/-- A cycle that is about to complete, or over, has nothing else before it. -/
theorem exists_calls_step {call : Call} (hcall : s.calls[place]? = some call)
    (hphase : call = .cycling c (.admitting report []) ∨ call.IsOver) (m : SavingMove) :
    ∃ call', (s.step m).calls[place]? = some call' ∧
      (call' = .cycling c (.admitting report []) ∨ call'.IsOver) := by
  cases m with
  | plain m =>
      have hcalls : (s.step (.plain m)).calls = (s.toTraffic.step m).calls :=
        (s.write_registry_calls m).2
      rw [hcalls]
      rcases getElem?_calls_step (m := m) hcall with ⟨-, hkept⟩ | ⟨arrival, -, hnext⟩ | hdropped
      · exact ⟨call, hkept, hphase⟩
      · refine ⟨_, hnext, .inr ?_⟩
        rcases hphase with rfl | hover
        · exact .finished c _
        · rw [hover.advance]
          exact hover
      · exact ⟨_, hdropped, .inr .dropped⟩
  | read place' =>
      refine ⟨call, ?_, hphase⟩
      simp only [step]
      split <;> exact hcall

/-- A move that changes a file completes a cycle that saves, or is made beside the registry. -/
theorem files_step {m : SavingMove} (hfiles : (s.step m).fleet.files ≠ s.fleet.files) :
    (∃ f, m = .plain (.beside f)) ∨
      ∃ place c report path, s.Completes m place c report ∧ Cycle.Saves c report path := by
  cases m with
  | read place =>
      refine absurd ?_ hfiles
      simp only [step]
      split <;> rfl
  | plain m =>
      rcases s.completes_or_write_eq_step m with ⟨place, c, report, hcompletes⟩ | ⟨hnone, hwrite⟩
      · refine .inr ⟨place, c, report, ?_⟩
        by_contra hunsaved
        have hsaves : ∀ path, ¬ Cycle.Saves c report path := fun path hsaves =>
          hunsaved ⟨path, hcompletes, hsaves⟩
        apply hfiles
        show (s.write m).fleet.files = s.fleet.files
        rw [hcompletes.write_eq]
        exact Cycle.complete_files_of_not_saves hsaves _
      · have hstep : (s.toTraffic.step m).fleet.files ≠ s.fleet.files := by
          rw [← hwrite]
          exact hfiles
        cases m with
        | beside f => exact .inl ⟨f, rfl⟩
        | proceed place arrival =>
            refine absurd ?_ hstep
            simp only [Traffic.step]
            cases hcall : s.calls[place]? with
            | none => rfl
            | some call =>
                refine Call.advance_files ?_ s.fleet arrival
                cases hcompleting : call.completing? with
                | none => rfl
                | some completed =>
                    rw [Call.completing?_eq_some_iff.1 hcompleting] at hcall
                    exact absurd ⟨⟨arrival, rfl⟩, hcall⟩ (hnone place completed.1 completed.2)
        | _ => exact absurd rfl hstep

/-- Runs in which no cycle reads ahead are the runs of the other traffic. -/
theorem run_plain (f : Fleet) (moves : List Move) :
    (start f).run (moves.map .plain) = ⟨(Traffic.start f).run moves, fun _ => none⟩ := by
  induction moves using List.reverseRecOn with
  | nil => rfl
  | append_singleton moves m ih =>
      rw [List.map_append, List.map_singleton, run_concat, ih, Traffic.run_concat, step,
        write_of_unread fun _ => rfl]

/-- No run makes the registry inconsistent. -/
theorem isConsistent_run (f : Fleet) (moves : List SavingMove) :
    ((start f).run moves).registry.IsConsistent := by
  induction moves using List.reverseRecOn with
  | nil => exact Registry.isConsistent_empty
  | append_singleton moves m ih =>
      rw [run_concat]
      obtain ⟨a, ha⟩ := ((start f).run moves).step_registry m
      rw [ha]
      exact ih.performAny a

/-- What was read is what there was at some moment at which the cycle was about to complete, and
since then the cycle has done nothing but complete, if it was not given up. -/
theorem exists_of_readBy {f : Fleet} {moves : List SavingMove} {r : Registry}
    (hread : ((start f).run moves).readBy place = some r) :
    ∃ before c report call, before <+: moves ∧ ((start f).run before).registry = r ∧
      ((start f).run before).calls[place]? = some (.cycling c (.admitting report [])) ∧
      ((start f).run moves).calls[place]? = some call ∧
      (call = .cycling c (.admitting report []) ∨ call.IsOver) := by
  induction moves using List.reverseRecOn with
  | nil => cases hread
  | append_singleton moves m ih =>
      -- What was read earlier is as old as it was, and the cycle is no less far.
      have hearlier : ((start f).run moves).readBy place = some r →
          ∃ before c report call, before <+: moves ++ [m] ∧ ((start f).run before).registry = r ∧
            ((start f).run before).calls[place]? = some (.cycling c (.admitting report [])) ∧
            ((start f).run (moves ++ [m])).calls[place]? = some call ∧
            (call = .cycling c (.admitting report []) ∨ call.IsOver) := by
        intro hthere
        obtain ⟨before, c, report, call, hbefore, hregistry, hcall, hnow, hphase⟩ := ih hthere
        obtain ⟨call', hnow', hphase'⟩ := exists_calls_step hnow hphase m
        rw [run_concat]
        exact ⟨before, c, report, call', hbefore.trans (List.prefix_append moves [m]), hregistry,
          hcall, hnow', hphase'⟩
      cases m with
      | plain m =>
          rw [run_concat] at hread
          exact hearlier hread
      | read place' =>
          rw [run_concat, step] at hread
          cases hcompleting : ((start f).run moves).calls[place']?.bind Call.completing? with
          | none =>
              simp only [hcompleting] at hread
              exact hearlier hread
          | some completing =>
              obtain ⟨c, report⟩ := completing
              have hcall := bind_completing?_eq_some_iff.1 hcompleting
              simp only [hcompleting] at hread
              by_cases hplace : place = place'
              · subst hplace
                rw [Function.update_self] at hread
                refine ⟨moves, c, report, _, List.prefix_append moves _, Option.some.inj hread,
                  hcall, ?_, .inl rfl⟩
                rw [run_concat]
                simp only [step, hcompleting]
                exact hcall
              · rw [Function.update_of_ne hplace] at hread
                exact hearlier hread

/-- A cycle saves what there was at some moment at which it had nothing left but to save. -/
theorem exists_saved {f : Fleet} {moves : List SavingMove}
    (hcall : ((start f).run moves).calls[place]? = some (.cycling c (.admitting report []))) :
    ∃ before, before <+: moves ∧
      ((start f).run before).registry = ((start f).run moves).saved place ∧
      ((start f).run before).calls[place]? = some (.cycling c (.admitting report [])) := by
  unfold saved
  cases hread : ((start f).run moves).readBy place with
  | none => exact ⟨moves, List.prefix_rfl, rfl, hcall⟩
  | some r =>
      obtain ⟨before, c', report', call, hbefore, hregistry, hthen, hnow, hphase⟩ :=
        exists_of_readBy hread
      obtain rfl := Option.some.inj (hcall.symm.trans hnow)
      rcases hphase with hsame | hover
      · refine ⟨before, hbefore, hregistry, hthen.trans (congrArg some hsame.symm)⟩
      · cases hover

theorem isConsistent_saved (f : Fleet) (moves : List SavingMove) (place : Nat) :
    (((start f).run moves).saved place).IsConsistent := by
  unfold saved
  cases hread : ((start f).run moves).readBy place with
  | none => exact isConsistent_run f moves
  | some r =>
      obtain ⟨before, _, _, _, -, rfl, -⟩ := exists_of_readBy hread
      exact isConsistent_run f before

/-- In the course of every run, with whatever may go wrong with files: apart from changes made beside
the fleet, a file changes only as a cycle completes in which a peer answered or a seed was taken in.
The cycle saves the registry as it was at some moment at which all its outcomes were applied. Where
the write succeeds, the file holds the remote peers as they were then, if these were sound and can
be read back; where it fails, the file has what it had before. The registry and the report are the
same either way. -/
theorem completing_cycles_save (f : Fleet) (moves : List SavingMove) (m : SavingMove) :
    let s := (start f).run moves
    ((s.step m).fleet.files ≠ s.fleet.files →
      (∃ g, m = .plain (.beside g)) ∨
        ∃ place c report path, s.Completes m place c report ∧ Cycle.Saves c report path) ∧
    ∀ place c report, s.Completes m place c report →
      (s.step m).registry = s.registry ∧
      (s.step m).calls[place]? = some
        (.cycling c (.finished { report with cycle := s.fleet.completed + 1 })) ∧
      ∀ path, Cycle.Saves c report path →
        let r := s.saved place
        let saving := r.save s.fleet.faults s.fleet.files path
        (∃ before, before <+: moves ∧ ((start f).run before).registry = r ∧
          ((start f).run before).calls[place]? = some (.cycling c (.admitting report []))) ∧
        (s.step m).fleet.files = saving.2 ∧
        (∀ n, saving.1 = .ok n → (∀ p ∈ r.remotePeers, p.IsRestorable ∧ p.IsSound) →
          r.IsRestoredFrom saving.2 path) ∧
        ∀ e, saving.1 = .error e → ∀ content,
          (s.fleet.files.read (.ofText path) = .ok content →
            saving.2.read (.ofText path) = .ok content) ∧
          (saving.2.read (.ofText path) = .ok content →
            ∃ there, saving.2.locate (.ofText path) = .ok there ∧
              s.fleet.files.at? there = some (.file content)) := by
  intro s
  refine ⟨files_step, ?_⟩
  intro place c report hcompletes
  obtain ⟨⟨arrival, rfl⟩, hcall⟩ := id hcompletes
  have hwrite : (s.step (.plain (.proceed place arrival))).toTraffic = s.complete place c report :=
    hcompletes.write_eq
  refine ⟨?_, ?_, ?_⟩
  · rw [hwrite]
    rfl
  · have hlt : place < s.calls.length := (List.getElem?_eq_some_iff.1 hcall).1
    rw [hwrite]
    simp only [complete, Cycle.complete_report]
    exact List.getElem?_set_self hlt
  · intro path hsaves r saving
    refine ⟨exists_saved hcall, ?_, ?_, ?_⟩
    · rw [hwrite]
      exact Cycle.complete_files_of_saves hsaves _
    · intro n hn hpeers
      exact Registry.isRestoredFrom_of_save (isConsistent_saved f moves place) hpeers
        (Prod.ext hn rfl)
    · intro e he content
      obtain ⟨e', hreplace⟩ := Registry.exists_of_save_eq_error (Prod.ext he rfl)
      exact FileSystem.read_of_replaceText_eq_some hreplace content

/-- A cycle that knows a seed and a file. -/
def savingSeed : MonitorConfig :=
  { MonitorConfig.builtin with seeds := [soundSeed], peersFile := some "peers.json" }

/-- A seed answers and is taken in. The cycle reads the registry, and before it writes what it has
read the peer is removed. -/
def removedAfterReading : List SavingMove :=
  [.plain (.cycle savingSeed), .plain (.proceed 0 .nothing), .plain (.proceed 0 (.outcomes [])),
    .plain (.proceed 0 .nothing), .plain (.proceed 0 .nothing), .plain (.proceed 0 .nothing),
    .plain (.proceed 0 (.outcomes [(⟨soundSeed.text, soundSeed⟩, .ok answered)])),
    .plain (.proceed 0 .nothing), .read 0, .plain (.access (.remove soundSeed.host))]

/-- By then there is a file without peers, and no file can be moved. -/
def immovable : Fleet :=
  { Registry.withFile "[]" with faults := { FileSystem.Faults.none with rename := some .busy } }

theorem completing_cycles_save_removedAfterReading :
    let s := (start quiet).run removedAfterReading
    let t := (start quiet).run (removedAfterReading ++ [.plain (.beside immovable)])
    let last : SavingMove := .plain (.proceed 0 .nothing)
    let report := { CycleReport.zero with discovered := 1 }
    s.Completes last 0 savingSeed report ∧ t.Completes last 0 savingSeed report ∧
    Cycle.Saves savingSeed report "peers.json" ∧
    (s.saved 0).remotePeers = [⟨soundSeed.host, soundSeed, answered⟩] ∧
    (∀ p ∈ (s.saved 0).remotePeers, p.IsRestorable ∧ p.IsSound) ∧
    (s.step last).registry = s.registry ∧ s.registry.snapshot = [] ∧
    (s.saved 0).IsRestoredFrom (s.step last).fleet.files "peers.json" ∧
    (t.step last).fleet.files ≠ t.fleet.files ∧
    (∃ place c report path, t.Completes last place c report ∧ Cycle.Saves c report path) ∧
    ((t.saved 0).save t.fleet.faults t.fleet.files "peers.json").1 =
      .error (.io "peers.json" FileError.busy.message) ∧
    t.fleet.files.read (.ofText "peers.json") = .ok "[]".toUTF8 ∧
    (t.step last).fleet.files.read (.ofText "peers.json") = .ok "[]".toUTF8 := by
  intro s t last report
  have hcompletes : s.Completes last 0 savingSeed report := ⟨⟨_, rfl⟩, rfl⟩
  have hcompletes' : t.Completes last 0 savingSeed report := ⟨⟨_, rfl⟩, rfl⟩
  have hsaves : Cycle.Saves savingSeed report "peers.json" := ⟨rfl, by decide⟩
  have hpeers : (s.saved 0).remotePeers = [⟨soundSeed.host, soundSeed, answered⟩] := by
    decide +kernel
  have hrestorable : ∀ p ∈ (s.saved 0).remotePeers, p.IsRestorable ∧ p.IsSound := by
    rw [hpeers]
    exact List.forall_mem_singleton.2 ⟨⟨⟨none, rfl⟩, isReadBack_answered⟩, by decide +kernel⟩
  have hcount : ((s.saved 0).save s.fleet.faults s.fleet.files "peers.json").1 = .ok 1 := by
    decide +kernel
  have hfails : ((t.saved 0).save t.fleet.faults t.fleet.files "peers.json").1 =
      .error (.io "peers.json" FileError.busy.message) := by decide +kernel
  have hread : t.fleet.files.read (.ofText "peers.json") = .ok "[]".toUTF8 := rfl
  obtain ⟨-, hdone⟩ := completing_cycles_save quiet removedAfterReading last
  obtain ⟨hchanged, hdone'⟩ := completing_cycles_save quiet
    (removedAfterReading ++ [.plain (.beside immovable)]) last
  obtain ⟨hregistry, -, hsaved⟩ := hdone 0 savingSeed report hcompletes
  obtain ⟨-, -, hsaved'⟩ := hdone' 0 savingSeed report hcompletes'
  obtain ⟨-, hfiles, hrestored, -⟩ := hsaved "peers.json" hsaves
  obtain ⟨-, hfiles', -, hkept⟩ := hsaved' "peers.json" hsaves
  have htemporary : (t.step last).fleet.files ≠ t.fleet.files := by
    intro hsame
    have hthere : (t.step last).fleet.files.holds (.ofText "peers.json.tmp") = true := by
      decide +kernel
    rw [hsame] at hthere
    exact absurd hthere (by decide +kernel)
  refine ⟨hcompletes, hcompletes', hsaves, hpeers, hrestorable, hregistry, by decide +kernel, ?_,
    htemporary, (hchanged htemporary).resolve_left ?_, hfails, hread, ?_⟩
  · rw [hfiles]
    exact hrestored 1 hcount hrestorable
  · rintro ⟨g, hlast⟩
    have hmove : Move.proceed 0 .nothing = .beside g := SavingMove.plain.inj hlast
    cases hmove
  · rw [hfiles']
    exact (hkept _ hfails _).1 hread

end SavingTraffic

end InferenceFleet
