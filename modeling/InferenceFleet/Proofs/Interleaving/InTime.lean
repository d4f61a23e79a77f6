import InferenceFleet.Proofs.Interleaving.Undisturbed
import InferenceFleet.Proofs.Monitor.Batch
import InferenceFleet.Proofs.Registry.Consistency
import InferenceFleet.Timeline.Admission
import InferenceFleet.Timeline.CycleRun

/-!
# Calls in time

A call that waits in time, for the lock, for answers after some delays and for room among the
probes in flight, is one of the calls of which traffic is made. Each time it is polled it takes
some of its steps, with none of another call between, and what it brought along while it waited is
an arrival that the call may have. So what holds in all traffic holds of calls in time, whatever the
network and the clocks do.
-/

namespace InferenceFleet

namespace Admission

/-- Starting to add a peer starts the call and leaves the fleet alone. -/
theorem start_eq (deadline : Duration) (w : World) (address : Address) (name : Option String) :
    match start deadline w address name with
    | .error e => Call.add w.fleet address name = .added (.error e)
    | .ok (w', a) =>
        w'.fleet = w.fleet ∧ Call.add w.fleet address name = .adding a.candidate := by
  unfold start Call.add
  cases w.fleet.registry.candidate address name with
  | error e => rfl
  | ok candidate => exact ⟨rfl, rfl⟩

/-- Admitting a peer is the last step of the call. -/
theorem advance_eq (w : World) (a : Admission) :
    (Call.adding a.candidate).advance w.fleet (.outcome a.outcome) =
      ((a.finish w).1.fleet, .added (a.finish w).2) := by
  simp only [Call.advance, finish]
  cases w.fleet.registry.enrollProbed a.candidate a.outcome.toOption <;> rfl

end Admission

namespace CycleRun

/-- The phase in which a call is that waits in time. No seeds are counted before they are probed,
and the targets of a batch are those that the call waits for. -/
inductive Stands (c : MonitorConfig) : CycleStage → CyclePhase → Prop
  | lock : Stands c .lock (.first c)
  | thisNode {address : Address} {due : Duration} {answer : Capability}
      (haddress : c.localAddress = some address) :
      Stands c (.thisNode due answer) (.thisNode address)
  | peers {report : CycleReport} {b : Batch} {targets : List Target}
      (hzero : report.discovered = 0) (htargets : b.targets.Perm targets) :
      Stands c (.peers report b) (.probing report targets)
  | seeds {report : CycleReport} {b : Batch} {targets : List Target}
      (hzero : report.discovered = 0) (htargets : b.targets.Perm targets) :
      Stands c (.seeds report b) (.probingSeeds report targets)
  | finished {report : CycleReport} : Stands c (.finished report) (.finished report)

/-- A cycle in a phase can come to where a poll leaves the world and the stage. -/
def Reaches (c : MonitorConfig) (f : Fleet) (phase : CyclePhase) (after : World × CycleStage) :
    Prop :=
  ∃ phase', Call.Leads (f, .cycling c phase) (after.1.fleet, .cycling c phase') ∧
    Stands c after.2 phase'

variable {c : MonitorConfig}

theorem Reaches.of_leads {f f' : Fleet} {phase phase' : CyclePhase} {after : World × CycleStage}
    (hleads : Call.Leads (f, .cycling c phase) (f', .cycling c phase'))
    (hreaches : Reaches c f' phase' after) : Reaches c f phase after := by
  obtain ⟨last, hlast, hstands⟩ := hreaches
  exact ⟨last, hleads.trans hlast, hstands⟩

theorem targets_pollBatch {w : World} {b : Batch} {targets : List Target}
    (htargets : b.targets.Perm targets) : (w.pollBatch c b).2.targets.Perm targets :=
  (Batch.targets_poll (fun _ => rfl) c.width w.now b).trans htargets

/-- The outcomes of a finished batch are ones that the call may have. -/
theorem matchesTargets_of_isFinished {b : Batch} {targets : List Target}
    (htargets : b.targets.Perm targets) (hfinished : b.isFinished = true) :
    CyclePhase.matchesTargets targets b.answered = true := by
  rw [Batch.targets_of_isFinished hfinished] at htargets
  exact List.isPerm_iff.2 htargets

theorem reaches_pollSeeds (ticket : Nat) (w : World) {report : CycleReport} {b : Batch}
    {targets : List Target} (hzero : report.discovered = 0) (htargets : b.targets.Perm targets) :
    Reaches c w.fleet (.probingSeeds report targets) (pollSeeds c ticket w report b) := by
  have hpolled := targets_pollBatch (c := c) (w := w) htargets
  simp only [pollSeeds]
  split
  · next hfinished =>
      exact ⟨_, Call.leads_probingSeeds c hzero (matchesTargets_of_isFinished hpolled hfinished),
        .finished⟩
  · exact ⟨_, .refl _, .seeds hzero hpolled⟩

theorem reaches_pollPeers (ticket : Nat) (w : World) {report : CycleReport} {b : Batch}
    {targets : List Target} (hzero : report.discovered = 0) (htargets : b.targets.Perm targets) :
    Reaches c w.fleet (.probing report targets) (pollPeers c ticket w report b) := by
  have hpolled := targets_pollBatch (c := c) (w := w) htargets
  simp only [pollPeers]
  split
  · next hfinished =>
      let applied := Cycle.applyOutcomes w.fleet report (w.pollBatch c b).2.answered
      have hzero' : applied.2.discovered = 0 := by
        rw [Cycle.applyOutcomes_discovered, hzero]
      have hseeds := reaches_pollSeeds (c := c) ticket
        { (w.pollBatch c b).1 with fleet := applied.1 }
        (b := .new (Cycle.candidates applied.1 c.seeds)) hzero' (List.Perm.refl _)
      exact .of_leads
        (Call.leads_probing c (matchesTargets_of_isFinished hpolled hfinished)) hseeds
  · exact ⟨_, .refl _, .peers hzero hpolled⟩

theorem reaches_enterPeers (ticket : Nat) (w : World) {report : CycleReport}
    (hzero : report.discovered = 0) :
    Reaches c w.fleet (.reading report) (enterPeers c ticket w report) :=
  .of_leads (Call.leads_advance w.fleet (.cycling c (.reading report)) .nothing)
    (reaches_pollPeers ticket w hzero (List.Perm.refl _))

theorem reaches_pollThisNode (ticket : Nat) (w : World) {address : Address} {due : Duration}
    {answer : Capability} (haddress : c.localAddress = some address) :
    Reaches c w.fleet (.thisNode address) (pollThisNode c ticket w address due answer) := by
  simp only [pollThisNode]
  split
  · have hanswered := Call.leads_advance w.fleet (.cycling c (.thisNode address))
      (.thisNode answer)
    exact .of_leads hanswered
      (reaches_enterPeers ticket { w with fleet := Cycle.applyLocal w.fleet address answer } rfl)
  · exact ⟨_, .refl _, .thisNode haddress⟩

theorem reaches_enter (ticket : Nat) (w : World) :
    Reaches c w.fleet (.first c) (enter c ticket w) := by
  unfold enter CyclePhase.first
  cases haddress : c.localAddress with
  | none => exact reaches_enterPeers ticket w rfl
  | some address => exact reaches_pollThisNode ticket w haddress

/-- A poll takes the call that a cycle in time is some steps further. -/
theorem reaches_pollStage (ticket : Nat) (w : World) {stage : CycleStage} {phase : CyclePhase}
    (hstands : Stands c stage phase) :
    Reaches c w.fleet phase (pollStage c ticket w stage) := by
  cases hstands with
  | lock =>
      simp only [pollStage]
      split
      · exact reaches_enter ticket w
      · exact ⟨_, .refl _, .lock⟩
  | thisNode haddress =>
      simp only [pollStage, haddress]
      exact reaches_pollThisNode ticket w haddress
  | peers hzero htargets => exact reaches_pollPeers ticket w hzero htargets
  | seeds hzero htargets => exact reaches_pollSeeds ticket w hzero htargets
  | finished => exact ⟨_, .refl _, .finished⟩

theorem isConsistent_of_leads {before after : Fleet × Call} (hleads : Call.Leads before after)
    (hconsistent : before.1.registry.IsConsistent) : after.1.registry.IsConsistent := by
  obtain ⟨arrivals, rfl⟩ := hleads
  obtain ⟨f, call⟩ := before
  induction arrivals generalizing f call with
  | nil => exact hconsistent
  | cons arrival rest ih =>
      have hnext : (call.advance f arrival).1.registry.IsConsistent := by
        rw [Call.advance_registry]
        exact hconsistent.performAny _
      exact ih (call.advance f arrival).1 (call.advance f arrival).2 hnext

/-- A poll of a cycle in time leaves a consistent registry consistent. -/
theorem isConsistent_pollStage {ticket : Nat} {w : World} {stage : CycleStage}
    {phase : CyclePhase} (hstands : Stands c stage phase)
    (hconsistent : w.fleet.registry.IsConsistent) :
    (pollStage c ticket w stage).1.fleet.registry.IsConsistent := by
  obtain ⟨phase', hleads, -⟩ := reaches_pollStage ticket w hstands
  exact isConsistent_of_leads hleads hconsistent

end CycleRun

end InferenceFleet
