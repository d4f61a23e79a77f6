import InferenceFleet.Proofs.Interleaving.InTime
import InferenceFleet.Proofs.Monitor.Outcomes

/-!
# How far a cycle has come

What a cycle has done to the fleet before it is finished is one of three things: nothing, the
refresh of this node's entry, or the refresh and all the outcomes of the batch of registered peers.
A batch is never applied in part, since outcomes are held back until the last one is there, and from
then on nothing is waited for until all of them are applied; and a cycle that has begun to take
seeds in does not wait any more before it is finished.
-/

namespace InferenceFleet

/-- A step of a cycle that changes the fleet and after which the cycle may have to wait. -/
inductive CycleEffect
  | refresh (address : Address) (answer : Capability)
  /-- A whole batch of registered peers. -/
  | outcomes (results : List (Target × Outcome))

namespace CycleEffect

/-- The fleet after an effect. -/
def apply (f : Fleet) : CycleEffect → Fleet
  | refresh address answer => Cycle.applyLocal f address answer
  | outcomes results => (Cycle.applyOutcomes f .zero results).1

/-- The outcomes that an effect applies. -/
def results : CycleEffect → List (Target × Outcome)
  | refresh _ _ => []
  | outcomes results => results

/-- What an effect does to a fleet, part by part: no remote peer comes or goes, the files and the
count of finished cycles stay, and the events and the error window get what belongs to the outcomes
and no more. -/
structure Makes (effect : CycleEffect) (f f' : Fleet) : Prop where
  eq : f' = effect.apply f
  ids : ∀ id, id ≠ localId → (f'.registry.get? id).isSome = (f.registry.get? id).isSome
  files : f'.files = f.files
  completed : f'.completed = f.completed
  events : f'.events =
    f.events.map (· ++ effect.results.filterMap (Cycle.eventOf? f.registry))
  errors : ∃ entries,
    List.Forall₂ (Cycle.EntryOf f.clock) entries (effect.results.filterMap Cycle.failureOf?) ∧
    f'.errors = entries.foldl (fun window entry => window.push entry.1 entry.2) f.errors

theorem makes_apply (effect : CycleEffect) (f : Fleet) : effect.Makes f (effect.apply f) := by
  cases effect with
  | refresh address answer =>
      refine ⟨rfl, fun id hremote => ?_, rfl, rfl, by simp [apply, results, Cycle.applyLocal],
        [], .nil, rfl⟩
      have hget := Registry.get?_perform f.registry (.registerLocal address answer) id
      rw [if_neg (Ne.symm hremote : (Access.registerLocal address answer).id ≠ id)] at hget
      exact congrArg Option.isSome hget
  | outcomes results =>
      have hleaves := Cycle.leaves_applyOutcomes f .zero results
      exact ⟨rfl, fun id _ => hleaves.ids id, hleaves.files, hleaves.completed, hleaves.events,
        hleaves.errors⟩

/-- Some effects, one after the other, lead from one fleet to another. -/
inductive Chain : List CycleEffect → Fleet → Fleet → Prop
  | nil {f : Fleet} : Chain [] f f
  | cons {effect : CycleEffect} {rest : List CycleEffect} {f f₁ f' : Fleet}
      (hmakes : effect.Makes f f₁) (hrest : Chain rest f₁ f') : Chain (effect :: rest) f f'

theorem Chain.single (effect : CycleEffect) (f : Fleet) : Chain [effect] f (effect.apply f) :=
  .cons (effect.makes_apply f) .nil

theorem Chain.append {effects effects' : List CycleEffect} {f f₁ f' : Fleet}
    (h : Chain effects f f₁) (h' : Chain effects' f₁ f') : Chain (effects ++ effects') f f' := by
  induction h with
  | nil => exact h'
  | cons hmakes _ ih => exact .cons hmakes (ih h')

end CycleEffect

namespace CycleRun

variable {c : MonitorConfig}

/-- The refresh of this node's entry, if this node is asked. -/
def refreshes (c : MonitorConfig) (answer : Capability) : List CycleEffect :=
  match c.localAddress with
  | some address => [.refresh address answer]
  | none => []

theorem chain_refreshes (f : Fleet) (answer : Capability) :
    CycleEffect.Chain (refreshes c answer) f (Cycle.entered c f answer) := by
  unfold refreshes Cycle.entered
  cases c.localAddress with
  | none => exact .nil
  | some address => exact .single _ f

/-- An outcome is what a probe that started in one of some worlds brings. -/
def Brought (c : MonitorConfig) (seen : World → Prop) (result : Target × Outcome) : Prop :=
  ∃ w, seen w ∧ result.2 = (w.launch c.probeTimeout result.1).outcome

/-- An answer is what this node gives in one of some worlds. -/
def Answered (seen : World → Prop) (answer : Capability) : Prop :=
  ∃ w, seen w ∧ answer = (w.network.thisNode w.fleet.clock.now.wall).result

/-- What has become of the batch of the registered peers that a cycle read, by the stage of the
cycle: it is under way, or it was applied as a whole. -/
inductive InHand (c : MonitorConfig) (seen : World → Prop) (targets : List Target) :
    CycleStage → List CycleEffect → Prop
  | peers {report : CycleReport} {b : Batch} (htargets : b.targets.Perm targets)
      (hbrought : ∀ result ∈ b.outcomes, Brought c seen result) :
      InHand c seen targets (.peers report b) []
  | seeds {report : CycleReport} {b : Batch} {results : List (Target × Outcome)}
      (hresults : (results.map Prod.fst).Perm targets)
      (hbrought : ∀ result ∈ results, Brought c seen result) :
      InHand c seen targets (.seeds report b) [.outcomes results]

/-- What a cycle has done to the fleet, by its stage and the worlds in which it was polled. The
targets of its batch are those of a world that it was polled in, once this node was refreshed. -/
inductive HasDone (c : MonitorConfig) (seen : World → Prop) :
    CycleStage → List CycleEffect → Prop
  | lock : HasDone c seen .lock []
  | thisNode {address : Address} {due : Duration} {answer : Capability}
      (haddress : c.localAddress = some address) (hanswer : Answered seen answer) :
      HasDone c seen (.thisNode due answer) []
  | inHand {w : World} {answer : Capability} {stage : CycleStage} {effects : List CycleEffect}
      (hseen : seen w) (hanswer : ∀ address, c.localAddress = some address → Answered seen answer)
      (hbatch : InHand c seen (Cycle.targets (Cycle.entered c w.fleet answer)) stage effects) :
      HasDone c seen stage (refreshes c answer ++ effects)

/-- What a poll does to the world unless it finishes the cycle: some effects, after which the stage
is one that they belong to, and nothing to the lock. -/
def Advances (belongs : CycleStage → List CycleEffect → Prop) (w : World)
    (after : World × CycleStage) : Prop :=
  (∃ report, after.2 = .finished report) ∨
    after.1.lock = w.lock ∧
      ∃ effects, CycleEffect.Chain effects w.fleet after.1.fleet ∧ belongs after.2 effects

section Seen

variable {seen seen' : World → Prop}

theorem Brought.mono {result : Target × Outcome} (h : Brought c seen result)
    (hmono : ∀ w, seen w → seen' w) : Brought c seen' result :=
  h.imp fun w hw => ⟨hmono w hw.1, hw.2⟩

theorem Answered.mono {answer : Capability} (h : Answered seen answer)
    (hmono : ∀ w, seen w → seen' w) : Answered seen' answer :=
  h.imp fun w hw => ⟨hmono w hw.1, hw.2⟩

theorem InHand.mono {targets : List Target} {stage : CycleStage} {effects : List CycleEffect}
    (h : InHand c seen targets stage effects) (hmono : ∀ w, seen w → seen' w) :
    InHand c seen' targets stage effects := by
  cases h with
  | peers htargets hbrought => exact .peers htargets fun r hr => (hbrought r hr).mono hmono
  | seeds hresults hbrought => exact .seeds hresults fun r hr => (hbrought r hr).mono hmono

theorem HasDone.mono {stage : CycleStage} {effects : List CycleEffect}
    (h : HasDone c seen stage effects) (hmono : ∀ w, seen w → seen' w) :
    HasDone c seen' stage effects := by
  cases h with
  | lock => exact .lock
  | thisNode haddress hanswer => exact .thisNode haddress (hanswer.mono hmono)
  | inHand hseen hanswer hbatch =>
      exact .inHand (hmono _ hseen) (fun a ha => (hanswer a ha).mono hmono) (hbatch.mono hmono)

theorem InHand.of_seeds {targets : List Target} {stage : CycleStage} {report : CycleReport}
    {b : Batch} {results : List (Target × Outcome)}
    (hresults : (results.map Prod.fst).Perm targets)
    (hbrought : ∀ result ∈ results, Brought c seen result) (hstage : stage = .seeds report b) :
    InHand c seen targets stage [.outcomes results] := by
  rw [hstage]
  exact .seeds hresults hbrought

/-- The outcomes of a batch after a poll are those from before and what the world brings. -/
theorem brought_pollBatch {w : World} {b : Batch} (hseen : ∀ t, Brought c seen
      (t, (w.launch c.probeTimeout t).outcome))
    (hbrought : ∀ result ∈ b.outcomes, Brought c seen result) :
    ∀ result ∈ (w.pollBatch c b).2.outcomes, Brought c seen result := by
  intro result hmem
  rcases Batch.mem_outcomes_poll hmem with hold | ⟨t, rfl⟩
  · exact hbrought result hold
  · exact hseen t

theorem advances_pollSeeds (ticket : Nat) (w : World) (report : CycleReport) (b : Batch) :
    Advances (fun stage effects => (∃ b', stage = .seeds report b') ∧ effects = []) w
      (pollSeeds c ticket w report b) := by
  simp only [pollSeeds]
  split
  · exact .inl ⟨_, rfl⟩
  · exact .inr ⟨rfl, [], .nil, ⟨_, rfl⟩, rfl⟩

theorem advances_pollPeers (ticket : Nat) (w : World) (report : CycleReport) {b : Batch}
    {targets : List Target} (htargets : b.targets.Perm targets)
    (hlaunch : ∀ t, Brought c seen (t, (w.launch c.probeTimeout t).outcome))
    (hbrought : ∀ result ∈ b.outcomes, Brought c seen result) :
    Advances (InHand c seen targets) w (pollPeers c ticket w report b) := by
  have hpolled := targets_pollBatch (c := c) (w := w) htargets
  have hbrings := brought_pollBatch hlaunch hbrought
  simp only [pollPeers]
  split
  · next hfinished =>
      let results := (w.pollBatch c b).2.answered
      let applied := Cycle.applyOutcomes w.fleet report results
      rw [Batch.targets_of_isFinished hfinished] at hpolled
      have hanswered : ∀ result ∈ results, Brought c seen result := fun result hmem =>
        hbrings result (Batch.mem_outcomes_of_mem_answered hmem)
      -- The batch is applied as a whole before the cycle can wait for seeds.
      have happlied : applied.1 = (CycleEffect.outcomes results).apply w.fleet :=
        Cycle.applyOutcomes_fst w.fleet report .zero results
      rcases advances_pollSeeds (c := c) ticket { (w.pollBatch c b).1 with fleet := applied.1 }
          applied.2 (.new (Cycle.candidates applied.1 c.seeds)) with
        hend | ⟨hlock, effects, hchain, ⟨b', hstage⟩, rfl⟩
      · exact .inl hend
      · refine .inr ⟨hlock, [.outcomes results], ?_, .of_seeds hpolled hanswered hstage⟩
        have hsingle := CycleEffect.Chain.single (.outcomes results) w.fleet
        rw [← happlied] at hsingle
        exact hsingle.append hchain
  · exact .inr ⟨rfl, [], .nil, .peers hpolled hbrings⟩

/-- Refreshing this node's entry changes nothing that a probe depends on. -/
theorem launch_entered (w : World) (answer : Capability) (deadline : Duration) (t : Target) :
    ({ w with fleet := Cycle.entered c w.fleet answer }).launch deadline t =
      w.launch deadline t := by
  unfold Cycle.entered
  cases c.localAddress <;> rfl

/-- A cycle that goes on to the registered peers once this node is refreshed. -/
theorem advances_enterPeers (ticket : Nat) {w : World} (report : CycleReport)
    {answer : Capability} (hseen : seen w)
    (hanswer : ∀ address, c.localAddress = some address → Answered seen answer) :
    Advances (HasDone c seen) w
      (enterPeers c ticket { w with fleet := Cycle.entered c w.fleet answer } report) := by
  have hread : (Batch.new (Cycle.targets (Cycle.entered c w.fleet answer))).targets.Perm
      (Cycle.targets (Cycle.entered c w.fleet answer)) := List.Perm.refl _
  have hlaunch : ∀ t, Brought c seen (t, (({ w with fleet := Cycle.entered c w.fleet answer }
      : World).launch c.probeTimeout t).outcome) := fun t =>
    ⟨w, hseen, by rw [launch_entered]⟩
  rcases advances_pollPeers (c := c) ticket
      { w with fleet := Cycle.entered c w.fleet answer } _ hread hlaunch (by simp) with
    hend | ⟨hlock, effects, hchain, hbatch⟩
  · exact .inl hend
  · exact .inr ⟨hlock, refreshes c answer ++ effects,
      (chain_refreshes w.fleet answer).append hchain,
      .inHand hseen hanswer hbatch⟩

theorem advances_pollThisNode (ticket : Nat) {w : World} {address : Address} (due : Duration)
    {answer : Capability} (haddress : c.localAddress = some address) (hseen : seen w)
    (hanswer : Answered seen answer) :
    Advances (HasDone c seen) w (pollThisNode c ticket w address due answer) := by
  simp only [pollThisNode]
  split
  · have hentered : Cycle.entered c w.fleet answer = Cycle.applyLocal w.fleet address answer := by
      rw [Cycle.entered, haddress]
    rw [← hentered]
    exact advances_enterPeers ticket _ hseen fun _ _ => hanswer
  · exact .inr ⟨rfl, [], .nil, .thisNode haddress hanswer⟩

theorem advances_enter (ticket : Nat) {w : World} (hseen : seen w) :
    Advances (HasDone c seen) w (enter c ticket w) := by
  unfold enter
  cases haddress : c.localAddress with
  | none =>
      have hentered : Cycle.entered c w.fleet .unseen = w.fleet := by
        rw [Cycle.entered, haddress]
      have hadvances : Advances (HasDone c seen) w
          (enterPeers c ticket { w with fleet := Cycle.entered c w.fleet .unseen } .zero) := by
        refine advances_enterPeers ticket .zero hseen fun address hsome => ?_
        rw [haddress] at hsome
        cases hsome
      rw [hentered] at hadvances
      exact hadvances
  | some address => exact advances_pollThisNode ticket _ haddress hseen ⟨w, hseen, rfl⟩

/-- A poll adds to what the cycle has done. -/
theorem advances_pollStage {ticket : Nat} {w : World} {stage : CycleStage}
    {done : List CycleEffect} (hdone : HasDone c seen stage done) (hseen : seen w) :
    Advances (fun stage' effects => HasDone c seen stage' (done ++ effects)) w
      (pollStage c ticket w stage) := by
  cases hdone with
  | lock =>
      simp only [pollStage]
      split
      · exact advances_enter ticket hseen
      · exact .inr ⟨rfl, [], .nil, .lock⟩
  | thisNode haddress hanswer =>
      simp only [pollStage, haddress]
      exact advances_pollThisNode ticket _ haddress hseen hanswer
  | @inHand read answer stage effects hread hanswer hbatch =>
      cases hbatch with
      | peers htargets hbrought =>
          rcases advances_pollPeers (c := c) ticket w _ htargets (fun t => ⟨w, hseen, rfl⟩)
              hbrought with
            hend | ⟨hlock, effects, hchain, hinHand⟩
          · exact .inl hend
          · refine .inr ⟨hlock, effects, hchain, ?_⟩
            dsimp only
            rw [List.append_nil]
            exact .inHand hread hanswer hinHand
      | seeds hresults hbrought =>
          rcases advances_pollSeeds (c := c) ticket w _ _ with
            hend | ⟨hlock, effects, hchain, ⟨b', hstage⟩, rfl⟩
          · exact .inl hend
          · refine .inr ⟨hlock, [], hchain, ?_⟩
            dsimp only
            rw [List.append_nil]
            exact .inHand hread hanswer (.of_seeds hresults hbrought hstage)

end Seen

end CycleRun

end InferenceFleet
