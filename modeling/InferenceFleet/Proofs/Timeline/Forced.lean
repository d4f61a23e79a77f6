import InferenceFleet.Proofs.Interleaving.InTime
import InferenceFleet.Proofs.Interleaving.Landing
import InferenceFleet.Proofs.Monitor.Outcomes
import InferenceFleet.Proofs.Registry.Remote

/-!
# What a forced cycle waits for

A forced cycle first waits for the lock, and its deadline does not wait with it. With room for a
probe of every registered peer, and without asking this node or seeds, it then starts all its probes
at once, and all of them are over by the latest of their delays. Main statement: if no probe takes
longer than there is time left, then there is a report and every peer is settled by its own outcome;
if one does, then there is none and the fleet is as before, with the answers of the others lost.

The proof goes from poll to poll. Between two polls the batch has the probes that were not due at
the former (`Batch.inFlight_poll`), and the next poll is when the first of these is due or the
deadline has come.
-/

namespace InferenceFleet

/-- What the probe of a target brings, and after which delay, if it starts now. -/
def World.plan (w : World) (c : MonitorConfig) (t : Target) : Plan Outcome :=
  w.network.remote t.address c.probeTimeout w.fleet.clock.now.wall

theorem foldl_min_le (d : Duration) (dues : List Duration) :
    dues.foldl min d ≤ d ∧ ∀ due ∈ dues, dues.foldl min d ≤ due := by
  induction dues generalizing d with
  | nil => exact ⟨Nat.le_refl d, nofun⟩
  | cons head rest ih =>
      obtain ⟨hstart, hrest⟩ := ih (min d head)
      exact ⟨Nat.le_trans hstart (Nat.min_le_left d head),
        List.forall_mem_cons.2 ⟨Nat.le_trans hstart (Nat.min_le_right d head), hrest⟩⟩

theorem foldl_min_eq (d : Duration) (dues : List Duration) :
    dues.foldl min d = d ∨ dues.foldl min d ∈ dues := by
  induction dues generalizing d with
  | nil => exact .inl rfl
  | cons head rest ih =>
      rcases ih (min d head) with heq | hmem
      · rcases Nat.le_total d head with hle | hle
        · exact .inl (heq.trans (Nat.min_eq_left hle))
        · exact .inr (List.mem_cons.2 (.inl (heq.trans (Nat.min_eq_right hle))))
      · exact .inr (List.mem_cons_of_mem head hmem)

namespace ForcedCycle

variable {c : MonitorConfig} {w₀ w : World} {f : ForcedCycle} {report : CycleReport} {b : Batch}

/-- The probes of a batch that are on their way or start now. -/
def pending (c : MonitorConfig) (w : World) (b : Batch) : List Flight :=
  b.inFlight ++ b.waiting.map (w.launch c.probeTimeout)

/-- Those of them that go on beyond now. -/
def left (c : MonitorConfig) (w : World) (b : Batch) : List Flight :=
  (pending c w b).filter fun flight => w.now < flight.due

/-- A cycle that began in a world has nothing beside it and is at the registered peers, with room
for all their probes. -/
structure Probing (c : MonitorConfig) (w₀ w : World) (b : Batch) : Prop where
  fleet : w.fleet = w₀.fleet
  network : w.network = w₀.network
  room : b.inFlight.length + b.waiting.length ≤ c.width
  targets : b.targets.Perm (Cycle.targets w₀.fleet)
  brought : ∀ result ∈ b.outcomes, result.2 = (w₀.plan c result.1).result

/-- The batch after a poll has what is left of it on its way. -/
theorem Probing.pollBatch (h : Probing c w₀ w b) :
    (w.pollBatch c b).2.waiting = [] ∧ (w.pollBatch c b).2.inFlight = left c w b :=
  Batch.inFlight_poll w.now h.room

theorem Probing.plan_eq (h : Probing c w₀ w b) (t : Target) : w.plan c t = w₀.plan c t := by
  rw [World.plan, World.plan, h.network, h.fleet]

/-- The outcomes that a batch has after a poll are what its probes bring. -/
theorem Probing.brought_pollBatch (h : Probing c w₀ w b) :
    ∀ result ∈ (w.pollBatch c b).2.outcomes, result.2 = (w₀.plan c result.1).result := by
  intro result hmem
  rcases Batch.mem_outcomes_poll hmem with hold | ⟨t, rfl⟩
  · exact h.brought result hold
  · exact congrArg Plan.result (h.plan_eq t)

/-- The world and the batch as they are when time goes on after a poll. -/
theorem Probing.next (h : Probing c w₀ w b) (t : Duration) :
    Probing c w₀ ((w.pollBatch c b).1.advanceTo t) (w.pollBatch c b).2 where
  fleet := h.fleet
  network := h.network
  room := by
    obtain ⟨hwaiting, hflight⟩ := h.pollBatch
    have hroom := h.room
    have hleft := List.length_filter_le (fun flight => decide (w.now < flight.due)) (pending c w b)
    rw [pending, List.length_append, List.length_map] at hleft
    rw [hwaiting, hflight, left, List.length_nil]
    exact Nat.le_trans hleft hroom
  targets := CycleRun.targets_pollBatch h.targets
  brought := h.brought_pollBatch

theorem Probing.pending_next (h : Probing c w₀ w b) (t : Duration) :
    pending c ((w.pollBatch c b).1.advanceTo t) (w.pollBatch c b).2 = left c w b := by
  obtain ⟨hwaiting, hflight⟩ := h.pollBatch
  rw [pending, hwaiting, hflight]
  exact List.append_nil _

theorem Probing.isFinished_iff (h : Probing c w₀ w b) :
    (w.pollBatch c b).2.isFinished = true ↔ left c w b = [] := by
  obtain ⟨hwaiting, hflight⟩ := h.pollBatch
  rw [Batch.isFinished, hwaiting, hflight]
  simp

theorem pollPeers_of_isFinished (hseeds : c.seeds = []) (ticket : Nat) (report : CycleReport)
    (hfinished : (w.pollBatch c b).2.isFinished = true) :
    ∃ w' report', CycleRun.pollPeers c ticket w report b = (w', .finished report') ∧
      w'.fleet.registry =
        (Cycle.applyOutcomes w.fleet report (w.pollBatch c b).2.answered).1.registry := by
  have hnone : ∀ w' : World, (w'.pollBatch c (.new [])).2 = .new [] := fun w' =>
    Batch.poll_new_nil (w'.launch c.probeTimeout) c.width w'.now
  simp only [CycleRun.pollPeers, if_pos hfinished, hseeds]
  show ∃ w' report', CycleRun.pollSeeds c ticket _ _ (.new []) = (w', .finished report') ∧ _
  simp only [CycleRun.pollSeeds, hnone]
  exact ⟨_, _, rfl, Cycle.complete_registry c _ _⟩

/-- A poll after which nothing is left of the batch finishes the cycle. -/
theorem poll_of_isFinished (hseeds : c.seeds = []) (hstage : f.run.stage = .peers report b)
    (hfinished : (w.pollBatch c b).2.isFinished = true) :
    ∃ report', (f.poll c w).2.2 = some (some report') ∧
      (f.poll c w).1.fleet.registry =
        (Cycle.applyOutcomes w.fleet report (w.pollBatch c b).2.answered).1.registry := by
  obtain ⟨deadline, ticket, stage⟩ := f
  obtain rfl : stage = .peers report b := hstage
  obtain ⟨w', report', hpolled, hregistry⟩ :=
    pollPeers_of_isFinished hseeds ticket report hfinished
  simp only [poll, CycleRun.poll, CycleRun.pollStage, hpolled]
  exact ⟨report', rfl, hregistry⟩

/-- A poll that leaves some of the batch leaves the fleet alone and ends the cycle if the deadline
has come. -/
theorem poll_of_not_isFinished (hstage : f.run.stage = .peers report b)
    (hwaiting : (w.pollBatch c b).2.isFinished = false) :
    f.poll c w =
      if f.deadline ≤ w.now then
        ({ (w.pollBatch c b).1 with lock := w.lock.release f.run.ticket },
          { f with run := ⟨f.run.ticket, .peers report (w.pollBatch c b).2⟩ }, some none)
      else
        ((w.pollBatch c b).1,
          { f with run := ⟨f.run.ticket, .peers report (w.pollBatch c b).2⟩ }, none) := by
  obtain ⟨deadline, ticket, stage⟩ := f
  obtain rfl : stage = .peers report b := hstage
  simp only [poll, CycleRun.poll, CycleRun.pollStage, CycleRun.pollPeers, hwaiting]
  rfl

/-- The instant of the poll after one that leaves some of the batch. -/
def nextPoll (c : MonitorConfig) (w : World) (b : Batch) (deadline : Duration) : Duration :=
  ((left c w b).map Flight.due).foldl min deadline

/-- A forced cycle that goes on after a poll. -/
theorem finishFrom_of_left (h : Probing c w₀ w b) (hstage : f.run.stage = .peers report b)
    (hleft : left c w b ≠ []) (hdeadline : w.now < f.deadline) (fuel : Nat) :
    finishFrom c (fuel + 1) w f =
      finishFrom c fuel ((w.pollBatch c b).1.advanceTo (nextPoll c w b f.deadline))
        { f with run := ⟨f.run.ticket, .peers report (w.pollBatch c b).2⟩ } := by
  have hwaiting : (w.pollBatch c b).2.isFinished = false :=
    Bool.eq_false_iff.2 fun hfinished => hleft (h.isFinished_iff.1 hfinished)
  have hpoll := poll_of_not_isFinished hstage hwaiting
  rw [if_neg (Nat.not_le.2 hdeadline)] at hpoll
  simp only [finishFrom, hpoll, CycleRun.wakes, h.pollBatch.2, nextPoll]

theorem finishFrom_of_timedOut (h : Probing c w₀ w b) (hstage : f.run.stage = .peers report b)
    (hleft : left c w b ≠ []) (hdeadline : f.deadline ≤ w.now) (fuel : Nat) :
    finishFrom c (fuel + 1) w f =
      ({ (w.pollBatch c b).1 with lock := w.lock.release f.run.ticket }, none) := by
  have hwaiting : (w.pollBatch c b).2.isFinished = false :=
    Bool.eq_false_iff.2 fun hfinished => hleft (h.isFinished_iff.1 hfinished)
  have hpoll := poll_of_not_isFinished hstage hwaiting
  rw [if_pos hdeadline] at hpoll
  simp only [finishFrom, hpoll]

theorem finishFrom_of_end {done : Option CycleReport} (hend : (f.poll c w).2.2 = some done)
    (fuel : Nat) : finishFrom c (fuel + 1) w f = ((f.poll c w).1, done) := by
  simp only [finishFrom]
  split
  · next hpoll =>
      rw [hpoll] at hend ⊢
      rw [Option.some.inj hend]
  · next hpoll =>
      rw [hpoll] at hend
      cases hend

/-- If all that is left is due by the deadline, some of it is due at the next poll, so that less is
left after that. -/
theorem Probing.length_left_next_lt (h : Probing c w₀ w b) {deadline : Duration}
    (hleft : left c w b ≠ []) (hdues : ∀ flight ∈ left c w b, flight.due ≤ deadline) :
    (left c ((w.pollBatch c b).1.advanceTo (nextPoll c w b deadline))
      (w.pollBatch c b).2).length < (left c w b).length := by
  obtain ⟨flight, hflight, hdue⟩ : ∃ flight ∈ left c w b, flight.due = nextPoll c w b deadline := by
    rcases foldl_min_eq deadline ((left c w b).map Flight.due) with heq | hmem
    · obtain ⟨first, hfirst⟩ := List.exists_mem_of_ne_nil _ hleft
      refine ⟨first, hfirst, Nat.le_antisymm ?_ ?_⟩
      · exact Nat.le_trans (hdues first hfirst) (Nat.le_of_eq heq.symm)
      · exact (foldl_min_le deadline _).2 first.due (List.mem_map_of_mem hfirst)
    · exact List.mem_map.1 hmem
  rw [left, h.pending_next]
  refine List.length_filter_lt_length_iff_exists.2 ⟨flight, hflight, ?_⟩
  simp only [decide_eq_true_eq, Nat.not_lt, hdue]
  exact Nat.le_max_right _ _

/-- With a probe that takes too long, a forced cycle ends without a report and without a change. -/
theorem finishFrom_of_late (h : Probing c w₀ w b) (hstage : f.run.stage = .peers report b)
    (hnow : w.now ≤ f.deadline) (hlate : ∃ flight ∈ pending c w b, f.deadline < flight.due)
    (fuel : Nat) :
    (finishFrom c fuel w f).2 = none ∧ (finishFrom c fuel w f).1.fleet = w₀.fleet := by
  induction fuel generalizing w f b with
  | zero =>
      refine ⟨rfl, ?_⟩
      obtain ⟨deadline, ticket, stage⟩ := f
      obtain rfl : stage = .peers report b := hstage
      exact h.fleet
  | succ fuel ih =>
      obtain ⟨flight, hpending, hlater⟩ := hlate
      have hmem : flight ∈ left c w b :=
        List.mem_filter.2 ⟨hpending, decide_eq_true (Nat.lt_of_le_of_lt hnow hlater)⟩
      have hleft : left c w b ≠ [] := List.ne_nil_of_mem hmem
      rcases Nat.lt_or_ge w.now f.deadline with hbefore | hafter
      · rw [finishFrom_of_left h hstage hleft hbefore]
        refine ih (h.next _) rfl ?_ ⟨flight, ?_, hlater⟩
        · exact Nat.max_le.2 ⟨hnow, (foldl_min_le f.deadline _).1⟩
        · rwa [h.pending_next]
      · rw [finishFrom_of_timedOut h hstage hleft hafter]
        exact ⟨rfl, h.fleet⟩

/-- With no such probe, a forced cycle ends with a report once all outcomes are there. -/
theorem finishFrom_of_all_in_time (hseeds : c.seeds = []) (h : Probing c w₀ w b)
    (hstage : f.run.stage = .peers report b)
    (hall : ∀ flight ∈ pending c w b, flight.due ≤ f.deadline) {fuel : Nat}
    (hfuel : (left c w b).length < fuel) :
    ∃ report' results, (finishFrom c fuel w f).2 = some report' ∧
      (results.map Prod.fst).Perm (Cycle.targets w₀.fleet) ∧
      (∀ result ∈ results, result.2 = (w₀.plan c result.1).result) ∧
      (finishFrom c fuel w f).1.fleet.registry =
        (Cycle.applyOutcomes w₀.fleet report results).1.registry := by
  induction fuel generalizing w f b with
  | zero => cases hfuel
  | succ fuel ih =>
      by_cases hleft : left c w b = []
      · have hfinished := h.isFinished_iff.2 hleft
        obtain ⟨report', hend, hregistry⟩ := poll_of_isFinished hseeds hstage hfinished
        have htargets := CycleRun.targets_pollBatch (c := c) (w := w) h.targets
        rw [Batch.targets_of_isFinished hfinished] at htargets
        rw [finishFrom_of_end hend, ← h.fleet]
        exact ⟨report', _, rfl, h.fleet ▸ htargets,
          fun result hmem => h.brought_pollBatch result (Batch.mem_outcomes_of_mem_answered hmem),
          hregistry⟩
      · obtain ⟨first, hfirst⟩ := List.exists_mem_of_ne_nil _ hleft
        -- The deadline is still to come, since a probe that is left has not gone beyond it.
        have hin : ∀ flight ∈ left c w b, w.now < flight.due ∧ flight.due ≤ f.deadline := by
          intro flight hflight
          obtain ⟨hpending, hdue⟩ := List.mem_filter.1 hflight
          exact ⟨of_decide_eq_true hdue, hall flight hpending⟩
        have hbefore : w.now < f.deadline :=
          Nat.lt_of_lt_of_le (hin first hfirst).1 (hin first hfirst).2
        rw [finishFrom_of_left h hstage hleft hbefore]
        refine ih (h.next _) rfl ?_ ?_
        · intro flight hflight
          rw [h.pending_next] at hflight
          exact (hin flight hflight).2
        · have hless := h.length_left_next_lt hleft fun flight hflight => (hin flight hflight).2
          omega

/-! ## The whole cycle -/

/-- The target of a registered peer. -/
def target (p : Peer) : Target := ⟨p.id, p.address⟩

/-- A forced cycle from an instant on, with nothing beside it. -/
def finish (c : MonitorConfig) (w : World) (f : ForcedCycle) : World × Option CycleReport :=
  finishFrom c (instants c w) w f

/-- The stage at which all registered peers are to be probed. -/
def asking (w : World) : CycleStage :=
  .peers { CycleReport.zero with probed := (Cycle.targets w.fleet).length }
    (.new (Cycle.targets w.fleet))

/-- A forced cycle that holds the lock starts with a batch of all registered peers. -/
theorem finish_of_holds {deadline : Duration} {ticket : Nat}
    (hholds : w.lock.holder = some ticket) (hlocal : c.localAddress = none) :
    finish c w ⟨deadline, ⟨ticket, .lock⟩⟩ = finish c w ⟨deadline, ⟨ticket, asking w⟩⟩ := by
  have hstage : CycleRun.pollStage c ticket w .lock = CycleRun.pollStage c ticket w (asking w) := by
    simp only [CycleRun.pollStage, if_pos hholds, CycleRun.enter, hlocal, CycleRun.enterPeers,
      asking]
  have hrun : CycleRun.poll c w ⟨ticket, .lock⟩ = CycleRun.poll c w ⟨ticket, asking w⟩ := by
    simp only [CycleRun.poll, hstage]
  have hpoll : poll c w ⟨deadline, ⟨ticket, .lock⟩⟩ =
      poll c w ⟨deadline, ⟨ticket, asking w⟩⟩ := by
    simp only [poll, hrun]
  show finishFrom c (_ + 1) w _ = finishFrom c (_ + 1) w _
  simp only [finishFrom, hpoll]

/-- A batch of all registered peers, for which there is room. -/
theorem probing_new (hroom : w.fleet.registry.remotePeers.length ≤ c.width) :
    Probing c w w (.new (Cycle.targets w.fleet)) where
  fleet := rfl
  network := rfl
  room := by
    show 0 + (Cycle.targets w.fleet).length ≤ c.width
    rwa [Nat.zero_add, Cycle.targets, List.length_map]
  targets := List.Perm.refl _
  brought := nofun

theorem mem_pending_new {flight : Flight} :
    flight ∈ pending c w (.new (Cycle.targets w.fleet)) ↔
      ∃ p ∈ w.fleet.registry.remotePeers,
        ⟨target p, w.now + (w.plan c (target p)).delay, (w.plan c (target p)).result⟩ = flight := by
  show flight ∈ [] ++ ((w.fleet.registry.remotePeers.map target).map
    (w.launch c.probeTimeout)) ↔ _
  rw [List.nil_append, List.map_map, List.mem_map]
  rfl

/-- There are more instants than probes. -/
theorem length_left_new_lt :
    (left c w (.new (Cycle.targets w.fleet))).length < instants c w := by
  have hleft : (left c w (.new (Cycle.targets w.fleet))).length ≤
      w.fleet.registry.remotePeers.length := by
    refine Nat.le_trans (List.length_filter_le _ _) (Nat.le_of_eq ?_)
    show ([] ++ ((w.fleet.registry.remotePeers.map target).map _)).length = _
    rw [List.nil_append, List.length_map, List.length_map]
  have hsize : w.fleet.registry.remotePeers.length ≤ w.fleet.registry.size := by
    refine Nat.le_trans (List.length_filter_le _ _) (Nat.le_of_eq ?_)
    exact List.length_map Prod.snd
  unfold instants
  omega

/-- What comes of a cycle that can probe from a world on until a deadline. -/
structure AwaitsSlowest (c : MonitorConfig) (w : World) (deadline : Duration)
    (done : World × Option CycleReport) : Prop where
  /-- If every probe is over by the deadline, there is a report, and each peer is settled by its own
  outcome. -/
  in_time : (∀ p ∈ w.fleet.registry.remotePeers,
      w.now + (w.plan c (target p)).delay ≤ deadline) →
    (∃ report, done.2 = some report) ∧
    ∀ p ∈ w.fleet.registry.remotePeers, ∃ now,
      done.1.fleet.registry.get? p.id =
        some (match (w.plan c (target p)).result with
          | .ok answer =>
              { p with
                capability := { answer with
                  available := true
                  lastSeen := (p.capability.lastSeen.later answer.lastSeen).later now } }
          | .error _ => { p with capability := { p.capability with available := false } })
  /-- If one probe is not, there is none, whatever the others have brought by then. -/
  late : (∃ p ∈ w.fleet.registry.remotePeers,
      deadline < w.now + (w.plan c (target p)).delay) →
    done.2 = none ∧ done.1.fleet = w.fleet

/-- A cycle that holds the lock by its deadline, with nothing beside it from then on. -/
theorem awaitsSlowest_finish {deadline : Duration} {ticket : Nat}
    (hholds : w.lock.holder = some ticket) (hnow : w.now ≤ deadline)
    (hconsistent : w.fleet.registry.IsConsistent) (hlocal : c.localAddress = none)
    (hseeds : c.seeds = []) (hroom : w.fleet.registry.remotePeers.length ≤ c.width) :
    AwaitsSlowest c w deadline (finish c w ⟨deadline, ⟨ticket, .lock⟩⟩) := by
  have hprobing := probing_new (c := c) hroom
  rw [finish_of_holds hholds hlocal]
  constructor
  case in_time =>
    intro hall
    have hdues : ∀ flight ∈ pending c w (.new (Cycle.targets w.fleet)),
        flight.due ≤ deadline := by
      intro flight hflight
      obtain ⟨p, hp, rfl⟩ := mem_pending_new.1 hflight
      exact hall p hp
    obtain ⟨report, results, hreport, htargets, hbrought, hregistry⟩ :=
      finishFrom_of_all_in_time (f := ⟨deadline, ⟨ticket, asking w⟩⟩) hseeds hprobing rfl hdues
        length_left_new_lt
    refine ⟨⟨report, hreport⟩, fun p hp => ?_⟩
    have hget := (hconsistent.mem_remotePeers_iff.1 hp).2
    have hnodup : (results.map fun result => result.1.id).Nodup := by
      have hperm := (htargets.map Target.id).nodup_iff.2 hconsistent.nodup_ids_targets
      rwa [List.map_map] at hperm
    obtain ⟨⟨t, outcome⟩, hmem, rfl⟩ :=
      List.mem_map.1 (htargets.mem_iff.2 (List.mem_map_of_mem hp : target p ∈ _))
    have houtcome : outcome = (w.plan c (target p)).result := hbrought _ hmem
    obtain ⟨now, hsettled⟩ := Cycle.get?_applyOutcomes_of_mem hnodup hmem hget _
    refine ⟨now, (congrArg (fun r => r.get? p.id) hregistry).trans (hsettled.trans ?_)⟩
    rw [houtcome]
    cases (w.plan c (target p)).result <;> rfl
  case late =>
    rintro ⟨p, hp, hlate⟩
    exact finishFrom_of_late hprobing rfl hnow ⟨_, mem_pending_new.2 ⟨p, hp, rfl⟩, hlate⟩ _

/-- While another cycle has the lock, a poll changes nothing, unless the deadline has come. -/
theorem poll_of_not_holds {deadline : Duration} {ticket : Nat}
    (hwaits : w.lock.holder ≠ some ticket) :
    poll c w ⟨deadline, ⟨ticket, .lock⟩⟩ =
      if deadline ≤ w.now then
        ({ w with lock := w.lock.release ticket }, ⟨deadline, ⟨ticket, .lock⟩⟩, some none)
      else (w, ⟨deadline, ⟨ticket, .lock⟩⟩, none) := by
  simp only [poll, CycleRun.poll, CycleRun.pollStage, if_neg hwaits]
  rfl

/-- A forced cycle, with this node and seeds not asked. Its deadline counts from the call, so it
includes the time for which another cycle has the lock. For so long, polls change nothing; if the
deadline comes meanwhile, there is no report, and but for the lock the world is as it was. From
whatever world in which the lock is handed to it by the deadline, with room for a probe of every
registered peer, it depends on the slowest probe: if each is over by the deadline, there is a report
and each peer is settled by its own outcome; if one is not, there is none and the fleet is as it
was, whatever the other peers have answered by then. With no other cycle beside it, that is so from
the call on. -/
theorem forced_cycle_waits_for_the_slowest (hlocal : c.localAddress = none) (hseeds : c.seeds = [])
    (w : World) :
    let f : ForcedCycle := ⟨w.now + c.startupWait, (CycleRun.start w).2⟩
    (∀ w' : World, w'.lock.holder ≠ some f.run.ticket →
      f.poll c w' =
        if f.deadline ≤ w'.now then
          ({ w' with lock := w'.lock.release f.run.ticket }, f, some none)
        else (w', f, none)) ∧
    (∀ w' : World, w'.lock.holder = some f.run.ticket → w'.now ≤ f.deadline →
      w'.fleet.registry.IsConsistent → w'.fleet.registry.remotePeers.length ≤ c.width →
      AwaitsSlowest c w' f.deadline (finish c w' f)) ∧
    (w.lock.holder = none → w.fleet.registry.IsConsistent →
      w.fleet.registry.remotePeers.length ≤ c.width →
      AwaitsSlowest c w (w.now + c.startupWait) (complete c w)) := by
  intro f
  refine ⟨fun w' hwaits => poll_of_not_holds hwaits, fun w' hholds hnow hconsistent hroom =>
    awaitsSlowest_finish hholds hnow hconsistent hlocal hseeds hroom, ?_⟩
  intro hfree hconsistent hroom
  have hholds : (CycleRun.start w).1.lock.holder = some f.run.ticket := by
    simp [f, CycleRun.start, CycleLock.request, hfree]
  have hend : AwaitsSlowest c (CycleRun.start w).1 f.deadline (complete c w) :=
    awaitsSlowest_finish hholds (Nat.le_add_right _ _) hconsistent hlocal hseeds hroom
  exact ⟨hend.in_time, hend.late⟩

/-- Settings under which a probe may take longer than a forced cycle is waited for. -/
def hurried : MonitorConfig :=
  { MonitorConfig.builtin with startupWait := .ofMillis 50, probeTimeout := .ofSeconds 10 }

def slow : Peer := ⟨"slow", ⟨"10.0.0.1", defaultPort⟩, .unseen⟩

def fast : Peer := ⟨"fast", ⟨"10.0.0.2", defaultPort⟩, .unseen⟩

/-- A world in which the fast peer answers at once and the slow one after some time. -/
def besideSlow (delay : Duration) : World :=
  { now := 0
    network :=
      ⟨fun address _ _ =>
        if address = slow.address then ⟨delay, .error ⟨"10.0.0.1:11434", .timeout delay⟩⟩
        else ⟨0, .ok .unseen⟩,
        fun _ => ⟨0, .unseen⟩⟩
    probed := []
    lock := .free
    fleet :=
      ((Traffic.start Traffic.quiet).run
        [.access (.enroll slow), .access (.enroll fast)]).fleet }

theorem isConsistent_besideSlow (delay : Duration) :
    (besideSlow delay).fleet.registry.IsConsistent :=
  Traffic.isConsistent_run Traffic.quiet [.access (.enroll slow), .access (.enroll fast)]

/-- With no cycle beside it, or with another one that takes a short time, a forced cycle gives a
report. If the other one takes longer, it does not. -/
theorem forced_cycle_waits_for_the_slowest_besideSlow :
    let w := besideSlow (.ofMillis 40)
    let busy := { w with lock := ⟨some 0, [], 1⟩ }
    let f : ForcedCycle := ⟨busy.now + hurried.startupWait, (CycleRun.start busy).2⟩
    let soon := { w with now := .ofMillis 10, lock := ⟨some 1, [], 2⟩ }
    let later := { soon with now := .ofMillis 11 }
    hurried.localAddress = none ∧ hurried.seeds = [] ∧
    w.fleet.registry.IsConsistent ∧ w.fleet.registry.remotePeers.length ≤ hurried.width ∧
    (∃ report, (complete hurried w).2 = some report) ∧
    f.poll hurried (CycleRun.start busy).1 = ((CycleRun.start busy).1, f, none) ∧
    (∃ report, (finish hurried soon f).2 = some report) ∧ (finish hurried later f).2 = none := by
  intro w busy f soon later
  have hconsistent := isConsistent_besideSlow (.ofMillis 40)
  have hroom : w.fleet.registry.remotePeers.length ≤ hurried.width := by decide
  obtain ⟨-, -, hfree⟩ := forced_cycle_waits_for_the_slowest (c := hurried) rfl rfl w
  obtain ⟨hwaits, hholds, -⟩ := forced_cycle_waits_for_the_slowest (c := hurried) rfl rfl busy
  have hpoll := hwaits (CycleRun.start busy).1 (by decide)
  rw [if_neg (by decide)] at hpoll
  exact ⟨rfl, rfl, hconsistent, hroom, ((hfree rfl hconsistent hroom).in_time (by decide)).1, hpoll,
    ((hholds soon rfl (by decide) hconsistent hroom).in_time (by decide)).1,
    ((hholds later rfl (by decide) hconsistent hroom).late (by decide)).1⟩

/-- It is not so that a peer which answers in time has its answer stored whatever the other peers
do: a slow one costs it its answer. -/
theorem slow_peer_costs_an_answer :
    ¬ ∀ (c : MonitorConfig) (w : World) (p : Peer) (answer : Capability),
      w.lock.holder = none → w.fleet.registry.IsConsistent → c.localAddress = none →
      c.seeds = [] → w.fleet.registry.remotePeers.length ≤ c.maxConcurrent →
      p ∈ w.fleet.registry.remotePeers →
      (w.plan c (target p)).result = .ok answer →
      (w.plan c (target p)).delay < c.startupWait →
      (w.plan c (target p)).delay < c.probeTimeout →
      ∃ lastSeen, (complete c w).1.fleet.registry.get? p.id =
        some { p with capability := { answer with available := true, lastSeen := lastSeen } } := by
  intro hall
  have hconsistent := isConsistent_besideSlow (.ofSeconds 10)
  have hfast : fast ∈ (besideSlow (.ofSeconds 10)).fleet.registry.remotePeers :=
    hconsistent.mem_remotePeers_iff.2 ⟨by decide, rfl⟩
  obtain ⟨lastSeen, hget⟩ := hall hurried (besideSlow (.ofSeconds 10)) fast .unseen rfl hconsistent
    rfl rfl (by decide) hfast (by decide) (by decide) (by decide)
  have hstale : ((complete hurried (besideSlow (.ofSeconds 10))).1.fleet.registry.get? "fast").map
      (fun p => p.capability.available) = some false := by decide +kernel
  rw [show "fast" = fast.id from rfl, hget] at hstale
  cases hstale

end ForcedCycle

end InferenceFleet
