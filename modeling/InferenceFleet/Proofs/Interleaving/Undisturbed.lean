import InferenceFleet.Proofs.Interleaving.Traffic

/-!
# Undisturbed calls

Cut into steps, a call is still the call that it was: where no other move comes between its steps,
it does to the fleet what the undivided operations do, one after the other, and ends with their
result. So traffic differs from the undivided operations by nothing but the moves that come between.
-/

namespace InferenceFleet

theorem Cycle.candidates_cons (f : Fleet) (seed : Address) (rest : List Address) :
    candidates f (seed :: rest) = candidates f [seed] ++ candidates f rest := by
  rw [candidates, ← List.singleton_append, List.filter_append, List.map_append]
  rfl

namespace Call

/-- What comes of a call whose steps nothing comes between. -/
def alone (f : Fleet) (call : Call) (arrivals : List Arrival) : Fleet × Call :=
  arrivals.foldl (fun state arrival => state.2.advance state.1 arrival) (f, call)

/-- A call with nothing between its steps can come from one state to another. -/
def Leads (before after : Fleet × Call) : Prop :=
  ∃ arrivals, before.2.alone before.1 arrivals = after

theorem alone_cons (f : Fleet) (call : Call) (arrival : Arrival) (rest : List Arrival) :
    call.alone f (arrival :: rest) =
      (call.advance f arrival).2.alone (call.advance f arrival).1 rest := rfl

theorem Leads.refl (state : Fleet × Call) : Leads state state := ⟨[], rfl⟩

theorem Leads.trans {first second third : Fleet × Call} (h : Leads first second)
    (h' : Leads second third) : Leads first third := by
  obtain ⟨arrivals, rfl⟩ := h
  obtain ⟨arrivals', rfl⟩ := h'
  exact ⟨arrivals ++ arrivals', List.foldl_append⟩

theorem leads_advance (f : Fleet) (call : Call) (arrival : Arrival) :
    Leads (f, call) (call.advance f arrival) := ⟨[arrival], rfl⟩

/-- The moves of one call, with none between, are the call alone. -/
theorem run_proceed {t : Traffic} {place : Nat} {call : Call}
    (hplace : t.calls[place]? = some call) (arrivals : List Arrival) :
    t.run (arrivals.map (.proceed place)) =
      ⟨(call.alone t.fleet arrivals).1, t.calls.set place (call.alone t.fleet arrivals).2⟩ := by
  induction arrivals generalizing t call with
  | nil =>
      obtain ⟨hlt, rfl⟩ := List.getElem?_eq_some_iff.1 hplace
      simp [alone]
  | cons arrival rest ih =>
      have hlt : place < t.calls.length := (List.getElem?_eq_some_iff.1 hplace).1
      show (t.step (.proceed place arrival)).run (rest.map (.proceed place)) = _
      have hnext : (t.calls.set place (call.advance t.fleet arrival).2)[place]? =
          some (call.advance t.fleet arrival).2 := by simp [hlt]
      rw [Traffic.step_proceed hplace, alone_cons, ih hnext, List.set_set]

/-- Loading goes through the records as the undivided operation does. -/
theorem alone_loading (f : Fleet) (report : LoadReport) (index : Nat) (entries : List Tree) :
    (Call.loading report index entries).alone f
        (List.replicate (entries.length + 1) .nothing) =
      ({ f with registry := (f.registry.loadEntries report index entries).1 },
        .loaded (.ok (f.registry.loadEntries report index entries).2)) := by
  induction entries generalizing f report index with
  | nil => rfl
  | cons entry rest ih =>
      rw [List.length_cons, List.replicate_succ, alone_cons]
      simp only [advance, Registry.loadEntries]
      cases f.registry.loadEntry entry with
      | error reason => exact ih f _ _
      | ok registry => exact ih { f with registry := registry } _ _

/-- A file is loaded as by the undivided operation. -/
theorem leads_load (f : Fleet) (path : String) :
    Leads (f, Call.load f path)
      (match f.registry.load f.files path with
        | .error e => (f, .loaded (.error e))
        | .ok (registry, report) => ({ f with registry := registry }, .loaded (.ok report))) := by
  unfold Call.load Registry.load
  cases Registry.textOf f.files path with
  | error e => exact .refl _
  | ok text =>
      cases text with
      | none => exact .refl _
      | some text =>
          dsimp only
          cases Registry.entriesOf path text with
          | error e => exact .refl _
          | ok entries => exact ⟨_, alone_loading f .zero 0 entries⟩

variable (c : MonitorConfig)

theorem leads_applying (f : Fleet) (report : CycleReport) (results : List (Target × Outcome)) :
    Leads (f, .cycling c (.applying report results))
      ((Cycle.applyOutcomes f report results).1,
        .cycling c (.applying (Cycle.applyOutcomes f report results).2 [])) := by
  induction results generalizing f report with
  | nil => exact .refl _
  | cons result rest ih => exact (leads_advance f _ .nothing).trans (ih _ _)

theorem leads_seeking (f : Fleet) (report : CycleReport) (seeds : List Address)
    (found : List Target) :
    Leads (f, .cycling c (.seeking report seeds found))
      (f, .cycling c (.probingSeeds report (found ++ Cycle.candidates f seeds))) := by
  induction seeds generalizing found with
  | nil =>
      rw [show Cycle.candidates f [] = [] from rfl, List.append_nil]
      exact leads_advance f _ .nothing
  | cons seed rest ih =>
      rw [Cycle.candidates_cons, ← List.append_assoc]
      exact (leads_advance f _ .nothing).trans (ih (found ++ Cycle.candidates f [seed]))

/-- The count of the seeds taken in goes on from where it is. -/
theorem leads_admitting (f : Fleet) (report : CycleReport) (results : List (Target × Outcome)) :
    Leads (f, .cycling c (.admitting report results))
      ((results.foldl Cycle.applySeed (f, report.discovered)).1,
        .cycling c (.admitting
          { report with
            discovered := (results.foldl Cycle.applySeed (f, report.discovered)).2 } [])) := by
  induction results generalizing f report with
  | nil => exact .refl _
  | cons result rest ih => exact (leads_advance f _ .nothing).trans (ih _ _)

/-- From the outcomes of the registered peers on, up to where the seeds are probed. -/
theorem leads_probing {f : Fleet} {report : CycleReport} {targets : List Target}
    {results : List (Target × Outcome)}
    (hmatches : CyclePhase.matchesTargets targets results = true) :
    Leads (f, .cycling c (.probing report targets))
      ((Cycle.applyOutcomes f report results).1,
        .cycling c (.probingSeeds (Cycle.applyOutcomes f report results).2
          (Cycle.candidates (Cycle.applyOutcomes f report results).1 c.seeds))) := by
  have hanswered := leads_advance f (.cycling c (.probing report targets)) (.outcomes results)
  rw [advance, CyclePhase.advance, if_pos hmatches] at hanswered
  have happlied := leads_applying c f report results
  have hafter := leads_advance (Cycle.applyOutcomes f report results).1
    (.cycling c (.applying (Cycle.applyOutcomes f report results).2 [])) .nothing
  have hsought := leads_seeking c (Cycle.applyOutcomes f report results).1
    (Cycle.applyOutcomes f report results).2 c.seeds []
  exact hanswered.trans <| happlied.trans <| hafter.trans hsought

/-- From the outcomes of the seeds on, to the end. -/
theorem leads_probingSeeds {f : Fleet} {report : CycleReport} {targets : List Target}
    {results : List (Target × Outcome)} (hzero : report.discovered = 0)
    (hmatches : CyclePhase.matchesTargets targets results = true) :
    Leads (f, .cycling c (.probingSeeds report targets))
      ((Cycle.complete c (Cycle.applySeeds f report results).1
          (Cycle.applySeeds f report results).2).1,
        .cycling c (.finished (Cycle.complete c (Cycle.applySeeds f report results).1
          (Cycle.applySeeds f report results).2).2)) := by
  have hanswered := leads_advance f (.cycling c (.probingSeeds report targets))
    (.outcomes results)
  rw [advance, CyclePhase.advance, if_pos hmatches] at hanswered
  have hadmitted := leads_admitting c f report results
  rw [hzero] at hadmitted
  exact hanswered.trans <| hadmitted.trans <| leads_advance _ _ .nothing

end Call

namespace Cycle

theorem applyOutcome_discovered (f : Fleet) (report : CycleReport) (result : Target × Outcome) :
    (applyOutcome (f, report) result).2.discovered = report.discovered := by
  obtain ⟨target, outcome⟩ := result
  cases outcome with
  | ok c =>
      simp only [applyOutcome]
      cases f.update target.id c <;> rfl
  | error e => rfl

theorem applyOutcomes_discovered (f : Fleet) (report : CycleReport)
    (results : List (Target × Outcome)) :
    (applyOutcomes f report results).2.discovered = report.discovered := by
  induction results generalizing f report with
  | nil => rfl
  | cons result rest ih =>
      calc (applyOutcomes f report (result :: rest)).2.discovered
          = (applyOutcome (f, report) result).2.discovered := ih _ _
        _ = report.discovered := applyOutcome_discovered f report result

/-- The fleet once this node answered, if it is asked. -/
def entered (c : MonitorConfig) (f : Fleet) (answer : Capability) : Fleet :=
  match c.localAddress with
  | some address => applyLocal f address answer
  | none => f

/-- The report before the registered peers are read. -/
def enteredReport (c : MonitorConfig) (answer : Capability) : CycleReport :=
  match c.localAddress with
  | some _ => localReport answer
  | none => .zero

/-- The report while the registered peers are probed. -/
def probingReport (c : MonitorConfig) (f : Fleet) (answer : Capability) : CycleReport :=
  { enteredReport c answer with probed := (targets (entered c f answer)).length }

/-- The fleet and the report once the outcomes of the registered peers are applied. -/
def applied (c : MonitorConfig) (f : Fleet) (answer : Capability)
    (peers : List (Target × Outcome)) : Fleet × CycleReport :=
  applyOutcomes (entered c f answer) (probingReport c f answer) peers

/-- A cycle with its waiting left out: its four steps, from the answer of this node and the
outcomes of the two batches. -/
def whole (c : MonitorConfig) (f : Fleet) (answer : Capability)
    (peers seeds : List (Target × Outcome)) : Fleet × CycleReport :=
  let (f, report) := applied c f answer peers
  let (f, report) := applySeeds f report seeds
  complete c f report

theorem applied_discovered (c : MonitorConfig) (f : Fleet) (answer : Capability)
    (peers : List (Target × Outcome)) : (applied c f answer peers).2.discovered = 0 := by
  rw [applied, applyOutcomes_discovered]
  show (enteredReport c answer).discovered = 0
  unfold enteredReport
  cases c.localAddress <;> rfl

end Cycle

namespace Call

variable (c : MonitorConfig)

theorem leads_first (f : Fleet) (answer : Capability) :
    Leads (f, .cycling c (.first c))
      (Cycle.entered c f answer, .cycling c (.reading (Cycle.enteredReport c answer))) := by
  unfold CyclePhase.first Cycle.entered Cycle.enteredReport
  cases c.localAddress with
  | none => exact .refl _
  | some address => exact leads_advance f _ (.thisNode answer)

/-- A cycle is its four steps one after the other, with what the two batches brought. -/
theorem leads_cycle (f : Fleet) (answer : Capability) {peers seeds : List (Target × Outcome)}
    (hpeers : CyclePhase.matchesTargets (Cycle.targets (Cycle.entered c f answer)) peers = true)
    (hseeds : CyclePhase.matchesTargets
      (Cycle.candidates (Cycle.applied c f answer peers).1 c.seeds) seeds = true) :
    Leads (f, .cycling c (.first c))
      ((Cycle.whole c f answer peers seeds).1,
        .cycling c (.finished (Cycle.whole c f answer peers seeds).2)) := by
  have hread := leads_advance (Cycle.entered c f answer)
    (.cycling c (.reading (Cycle.enteredReport c answer))) .nothing
  have hprobed : Leads _ (_, .cycling c (.probingSeeds (Cycle.applied c f answer peers).2 _)) :=
    leads_probing c hpeers
  have hzero := Cycle.applied_discovered c f answer peers
  exact (leads_first c f answer).trans <| hread.trans <| hprobed.trans <|
    leads_probingSeeds c hzero hseeds

end Call

end InferenceFleet
